import Mathlib.Algebra.Group.Nat.Defs
import Threadwire.Cdp.CdpTurnObservationTracker
import Threadwire.Domain.RuntimeGeneration
import Threadwire.Effect.Basic
import Threadwire.Routing.ThreadRegistry
import Threadwire.Text.Strings
import Threadwire.Turn.Types

/-!
# The turn executor

`turn/TurnExecutor.ts`: a turn from the check of its composer to its result.

A call of `executeScheduled` is a computation over what it changes, its `TurnRun`. What it asks for
is answered by a table, the `TurnEnvironment`: every question has a number, which is how many were
asked before it, and the caller aborts the signal when a certain number of questions was asked. A
table answers every question whatever the call did, so the runs under all tables are the runs under
every behaviour of the port, the clock, the listener and the caller.
-/

namespace Threadwire

/-- `DEFAULT_TURN_WRITE_OBSERVATION_TIMEOUT_MS`. -/
def DEFAULT_TURN_WRITE_OBSERVATION_TIMEOUT_MS : Rat := 15000

/-- `DEFAULT_TURN_WRITE_SETTLEMENT_TIMEOUT_MS`. -/
def DEFAULT_TURN_WRITE_SETTLEMENT_TIMEOUT_MS : Rat := 120000

/-- `DEFAULT_TURN_RESPONSE_COMPLETION_TIMEOUT_MS`. -/
def DEFAULT_TURN_RESPONSE_COMPLETION_TIMEOUT_MS : Rat := 120000

/-- `DEFAULT_MAX_ACCUMULATED_FINAL_TEXT_CHARS`. -/
def DEFAULT_MAX_ACCUMULATED_FINAL_TEXT_CHARS : Rat := 1048576

/-- `DEFAULT_FRESH_CONVERSATION_TIMEOUT_MS`. -/
def DEFAULT_FRESH_CONVERSATION_TIMEOUT_MS : Rat := 15000

/-- `TurnExecutorOptions`: the numbers that the executor compares something with. -/
structure TurnExecutorOptions where
  writeObservationTimeoutMs : Rat := DEFAULT_TURN_WRITE_OBSERVATION_TIMEOUT_MS
  writeSettlementTimeoutMs : Rat := DEFAULT_TURN_WRITE_SETTLEMENT_TIMEOUT_MS
  responseCompletionTimeoutMs : Rat := DEFAULT_TURN_RESPONSE_COMPLETION_TIMEOUT_MS
  maxAccumulatedTextChars : Rat := DEFAULT_MAX_ACCUMULATED_FINAL_TEXT_CHARS
  freshConversationTimeoutMs : Rat := DEFAULT_FRESH_CONVERSATION_TIMEOUT_MS
deriving DecidableEq, Repr

/-- `CdpTurnComposerState`. -/
structure CdpTurnComposerState where
  expectedRoute : Bool
  eligible : Bool
  focused : Bool
  empty : Bool
  backendDOMNodeId : Option Rat := none
deriving DecidableEq, Repr

/-- `Number.isSafeInteger`. -/
def isSafeInteger (value : Rat) : Bool := value.den == 1 && value.num.natAbs < 2 ^ 53

/-- `boundMutationCancellation` of a `TurnCdpPort`, and which of its optional methods it has. -/
structure TurnCdpPort where
  boundMutationCancellation : Bool := false
  takeTurnResponseEvents : Bool := true
  discardTurnResponse : Bool := true
  insertTextIntoProjectComposer : Bool := true
  clickTurnSendButton : Bool := true
  clickExistingTurnSendButton : Bool := true
deriving DecidableEq, Repr

/-- An awaited command of the port, with its arguments. -/
inductive TurnCommand where
  | getTurnComposerState (expectedRoute : RouteExpectation)
  | insertText (text : Text)
  | insertTextIntoProjectComposer (text : Text) (projectLocator : ProjectLocator)
      (backendDOMNodeId : Option Rat)
  | clickTurnSendButton (projectLocator : ProjectLocator)
      (backendDOMNodeId formBackendDOMNodeId : Option Rat) (expectedText : Text)
  | clickExistingTurnSendButton (conversationLocator : ConversationLocator)
      (backendDOMNodeId : Option Rat) (expectedText : Text)
  | dispatchEnterKeyDown
  | dispatchEnterKeyUp
  | getCurrentConversationLocator
deriving DecidableEq, Repr

/-- How a command ends that is raced against its timeout and against the signal. -/
inductive CommandRace (α : Type) where
  | settled (outcome : Except ThrownError α)
  | timedOut
  | cancelled

/-- How the preflight ends. `ReadinessController` may dismiss a notice in it, and where the input of
that did not settle, `CdpSessionManager.dismissKnownFreshNotice` marks the lease and throws at once;
so what marks the lease also rejects. -/
inductive ComposerWait where
  | settled (outcome : Except ThrownError Unit)
  | markedUncertain (error : ThrownError)
  | pending

/-- What a turn is answered, by the number of the question. -/
structure TurnEnvironment where
  abort : Option (ℕ × Option ThrownError) := none
  refusal : Option ThrownError := none
  clock : ℕ → Rat
  waitForTurnComposer : ℕ → ComposerWait
  getTurnComposerState : ℕ → CommandRace CdpTurnComposerState
  armTurnObservation : ℕ → Except ThrownError Unit
  getTurnObservation : ℕ → Except ThrownError CdpTurnObservationSnapshot
  takeTurnResponseEvents : ℕ → Except ThrownError (List NormalizedResponseStreamEvent)
  discardTurnResponse : ℕ → Except ThrownError Unit
  releaseTurnObservation : ℕ → Except ThrownError Unit
  insertText : ℕ → CommandRace Unit
  insertTextIntoProjectComposer : ℕ → CommandRace Rat
  clickTurnSendButton : ℕ → CommandRace Unit
  clickExistingTurnSendButton : ℕ → CommandRace Unit
  dispatchEnterKeyDown : ℕ → CommandRace Unit
  dispatchEnterKeyUp : ℕ → CommandRace Unit
  getCurrentConversationLocator : ℕ → CommandRace (Option ConversationLocator)
  listenerThrows : ℕ → Bool
  handleFactory : ℕ → ThreadHandleFactory

/-- What a turn does and learns, in order. Some of these record what only the executor sees:
`polled`, whether the signal was aborted when a poll began, `checkedCancellation`, what a poll found
when it came to its last test for a cancellation, `failedResponse`, an error that became the
response's `terminalError`, and `generationChanged`, an error of this class that is thrown on. -/
inductive TurnAction where
  | dispatched (command : TurnCommand)
  | returned (command : TurnCommand)
  | armedTurnObservation (responseStream : Bool)
  | observed (snapshot : CdpTurnObservationSnapshot)
  | committed
  | polled (aborted : Bool)
  | checkedCancellation (write : CdpWriteLifecycleState) (cancelled : Bool)
  | routeRead (locator : Option ConversationLocator)
  | delivered (event : ResponseStreamEvent) (threw : Bool)
  | failedResponse (error : ThrownError)
  | registered (locator : ConversationLocator) (result : ThreadRegistrationResult)
  | reserved (locator : ConversationLocator) (result : ProvisionalThreadRegistrationResult)
  | rolledBack (transaction : ProvisionalThreadRegistrationToken)
  | markedUncertain (lease : RuntimeLease)
  | generationChanged
  | releasedTurnObservation (error : Option ThrownError)
deriving DecidableEq, Repr

/-- `ResponseDeliveryState`. -/
structure ResponseDeliveryState where
  deliveryDeferred : Bool
  semanticCompleted : Bool := false
  finalized : Bool := false
  terminalError : Option ThrownError := none
  discarded : Bool := false
  accumulatedText : Text := []
deriving DecidableEq, Repr

/-- `PendingProjectCompletion`. -/
structure PendingProjectCompletion where
  lease : RuntimeLease
  transaction : ProvisionalThreadRegistrationToken
deriving DecidableEq, Repr

/-- What a turn changes. `pendingProjectCompletion` is what it put into `pendingProjectCompletions`
under its result. -/
structure TurnRun where
  asked : ℕ := 0
  trace : List TurnAction := []
  registry : ThreadRegistry := {}
  responseState : Option ResponseDeliveryState := none
  projectRegistration : Option ProvisionalThreadRegistrationResult := none
  pendingProjectCompletion : Option PendingProjectCompletion := none

/-- A call of `executeScheduled`: its arguments, the executor's options and port, and what it is
answered. -/
structure TurnCall where
  options : TurnExecutorOptions := {}
  port : TurnCdpPort := {}
  environment : TurnEnvironment
  parseUrl : UrlParser
  target : TurnTarget
  text : Text
  lease : RuntimeLease
  listening : Bool

/-- A piece of a turn. -/
abbrev TurnM := Effect TurnRun (Interrupt ThrownError)

namespace TurnExecutor

open Effect

/-- Append to the trace. -/
def record (action : TurnAction) : TurnM Unit :=
  modify fun run => { run with trace := run.trace ++ [action] }

/-- Ask a question. -/
def ask {α : Type} (answers : ℕ → α) : TurnM α :=
  modifyGet fun run => (answers run.asked, { run with asked := run.asked + 1 })

/-- `sleep`. -/
def sleep : TurnM Unit := ask fun _ => ()

/-- A method of the registry. -/
def onRegistry {α : Type} (method : RegistryM α) : TurnM α := fun run =>
  match method run.registry with
  | (.ok a, registry) => (.ok a, { run with registry })
  | (.error e, registry) => (.error (.thrown e), { run with registry })

/-- Assign to fields of the response state. -/
def modifyResponse (f : ResponseDeliveryState → ResponseDeliveryState) : TurnM Unit :=
  modify fun run => { run with responseState := run.responseState.map f }

/-- Read the response state. -/
def readResponse : TurnM (Option ResponseDeliveryState) := do
  let run ← get
  pure run.responseState

/-- `sanitizedTurnCause`. -/
def sanitizedTurnCause (error : ThrownError) : ThrownError :=
  if error.isInstance .cdpDisconnected then
    .ofCodeMessage .cdpDisconnected error.head.message
  else if error.isInstance .operationTimeout then
    .ofCodeMessage .operationTimeout error.head.message
  else .plain "A low-level turn operation failed without retained protocol metadata."

/-- `responseErrorForFailure`. -/
def responseErrorForFailure (failure : Option CdpResponseStreamFailureKind) : ThrownError :=
  match failure with
  | some .UNAVAILABLE => .ofCode .responseStreamUnavailable
  | some .PARSE_FAILED => .ofCode .responseParseFailed
  | _ => .ofCode .responseStreamFailed

variable (c : TurnCall)

/-- Whether the target is a project. -/
def isProject : Bool :=
  match c.target with
  | .project _ => true
  | _ => false

/-- Whether the target is a thread. -/
def isThread : Bool :=
  match c.target with
  | .thread _ => true
  | _ => false

/-! ## The signal, commands and failing closed -/

/-- Whether the signal is aborted when this many questions were asked. -/
def abortedAt (asked : ℕ) : Bool :=
  match c.environment.abort with
  | none => false
  | some (time, _) => time ≤ asked

/-- `signal?.aborted ?? false`. -/
def isAborted : TurnM Bool := do
  let run ← get
  pure (abortedAt c run.asked)

/-- `signal?.reason`. -/
def abortReason : Option ThrownError := c.environment.abort.bind (·.2)

/-- `throwIfAborted(signal)`. -/
def throwIfAborted : TurnM Unit := do
  let aborted ← isAborted c
  onlyIf aborted (fail (abortedError (abortReason c)))

/-- `operationAborted(signal)`. -/
def operationAborted : ThrownError := (ThrownError.ofCode .operationAborted).withCause (abortReason c)

/-- `withTimeout` on a command, with or without the signal. An answer by which the command is
cancelled counts only where the signal was passed and is aborted. -/
def withTimeout {α : Type} (passSignal : Bool) (message : String) (command : TurnCommand)
    (answers : ℕ → CommandRace α) : TurnM α := do
  onlyIf passSignal (throwIfAborted c)
  record (.dispatched command)
  match ← ask answers with
  | .settled (.ok a) =>
    record (.returned command)
    pure a
  | .settled (.error e) => fail e
  | .timedOut => fail (.ofCodeMessage .operationTimeout message)
  | .cancelled =>
    let aborted ← isAborted c
    if passSignal && aborted then fail (operationAborted c)
    else fail (.ofCodeMessage .operationTimeout message)

/-- `failClosed`. -/
def failClosed {α : Type} (cause : ThrownError) : TurnM α := do
  record (.markedUncertain c.lease)
  fail ((ThrownError.ofCode .turnStateUncertain).withCause (some (sanitizedTurnCause cause)))

/-- Throw a `RuntimeGenerationChangedError` on. -/
def rethrowGenerationChange {α : Type} (error : ThrownError) : TurnM α := do
  record .generationChanged
  fail error

/-- `readTurnObservation`. -/
def readTurnObservation : TurnM CdpTurnObservationSnapshot := do
  match ← ask c.environment.getTurnObservation with
  | .ok snapshot =>
    record (.observed snapshot)
    pure snapshot
  | .error error =>
    if error.isInstance .runtimeGenerationChanged then rethrowGenerationChange error
    else failClosed c error

/-- `assertNoObservedPreSubmitWrite`. -/
def assertNoObservedPreSubmitWrite (failClosedOnAnyWrite : Bool) : TurnM Unit := do
  let snapshot ← readTurnObservation c
  match snapshot.write with
  | none => pure ()
  | some lifecycle =>
    if failClosedOnAnyWrite || lifecycle == .ACTIVE then
      failClosed c
        (.plain "A conversation write was observed before the intended submission boundary.")
    else fail (.ofCode .turnInputFailed)

/-! ## The response -/

/-- `state.terminalError ??= error`; where the source assigns, the field is null. -/
def recordTerminalError (error : ThrownError) : TurnM Unit := do
  let state ← readResponse
  match state with
  | none => pure ()
  | some state =>
    match state.terminalError with
    | some _ => pure ()
    | none =>
      modifyResponse fun state => { state with terminalError := some error }
      record (.failedResponse error)

/-- `discardResponse`. -/
def discardResponse (cancellation : Bool) : TurnM Unit := do
  let state ← readResponse
  match state with
  | none => pure ()
  | some state =>
    if state.discarded then pure ()
    else
      modifyResponse fun state => { state with discarded := true }
      if !c.port.discardTurnResponse then
        onlyIf (!cancellation) (recordTerminalError (.ofCode .responseStreamUnavailable))
      else
        match ← ask c.environment.discardTurnResponse with
        | .ok () => pure ()
        | .error error =>
          if error.isInstance .runtimeGenerationChanged then rethrowGenerationChange error
          else if error.isInstance .cdpDisconnected then failClosed c error
          else onlyIf (!cancellation) (recordTerminalError (.ofCode .responseStreamFailed))

/-- Record a terminal error and discard the response. -/
def failResponse (error : ThrownError) : TurnM Unit := do
  recordTerminalError error
  discardResponse c false

/-- Call the listener; `false` where it threw. -/
def callListener (event : ResponseStreamEvent) : TurnM Bool := do
  let threw ← ask c.environment.listenerThrows
  record (.delivered event threw)
  pure !threw

/-- `state.accumulatedText += text`. -/
def accumulate (text : Text) : TurnM Unit :=
  modifyResponse fun state => { state with accumulatedText := state.accumulatedText ++ text }

/-- The loop of `deliverNormalizedEvents`. -/
def deliverEvents : List NormalizedResponseStreamEvent → TurnM Unit
  | [] => pure ()
  | .completed :: events => do
    modifyResponse fun state => { state with semanticCompleted := true }
    deliverEvents events
  | .textDelta text :: events => do
    let state ← readResponse
    match state with
    | none => pure ()
    | some state =>
      if c.options.maxAccumulatedTextChars < state.accumulatedText.length + text.length then
        failResponse c (.ofCode .responseStreamFailed)
      else if state.deliveryDeferred then
        accumulate text
        deliverEvents events
      else
        let accepted ← callListener c (.textDelta text)
        if accepted then
          accumulate text
          deliverEvents events
        else failResponse c (.ofCode .responseStreamFailed)

/-- `deliverNormalizedEvents`. -/
def deliverNormalizedEvents : TurnM Unit :=
  if !c.port.takeTurnResponseEvents then failResponse c (.ofCode .responseStreamUnavailable)
  else do
    match ← ask c.environment.takeTurnResponseEvents with
    | .ok events => deliverEvents c events
    | .error error =>
      if error.isInstance .runtimeGenerationChanged then rethrowGenerationChange error
      else if error.isInstance .cdpDisconnected then failClosed c error
      else failResponse c (.ofCode .responseStreamFailed)

/-- The end of `updateResponseDelivery`. -/
def followLifecycle (response : CdpTurnResponseObservation) : TurnM Unit :=
  match response.lifecycle with
  | .COMPLETED => modifyResponse fun state => { state with semanticCompleted := true }
  | .FAILED => do
    let state ← readResponse
    match state.bind (·.terminalError) with
    | some _ => pure ()
    | none => failResponse c (responseErrorForFailure response.failure)
  | .PENDING | .STREAMING => pure ()

/-- `updateResponseDelivery`. -/
def updateResponseDelivery (snapshot : CdpTurnObservationSnapshot) (callerCancelled : Bool) :
    TurnM Unit := do
  let state ← readResponse
  match state with
  | none => pure ()
  | some state =>
    if callerCancelled then discardResponse c true
    else
      match snapshot.response with
      | none =>
        onlyIf state.terminalError.isNone (failResponse c (.ofCode .responseStreamUnavailable))
      | some response =>
        onlyIf (!state.discarded) (deliverNormalizedEvents c)
        followLifecycle c response

/-- Deliver an event of the end of the response; `false`, with a terminal error, where the listener
threw. -/
def announce (event : ResponseStreamEvent) : TurnM Bool := do
  let accepted ← callListener c event
  onlyIf (!accepted) (recordTerminalError (.ofCode .responseStreamFailed))
  pure accepted

/-- The deferred text, where the delivery was deferred. -/
def announceDeferred (state : ResponseDeliveryState) : TurnM Bool :=
  if state.deliveryDeferred then do
    let accepted ← announce c (.textDelta state.accumulatedText)
    onlyIf accepted (modifyResponse fun state => { state with deliveryDeferred := false })
    pure accepted
  else pure true

/-- The end of `finalizeResponseDelivery`. -/
def announceCompleted : TurnM Bool := do
  let accepted ← announce c .completed
  onlyIf accepted (modifyResponse fun state => { state with finalized := true })
  pure accepted

/-- `finalizeResponseDelivery`. -/
def finalizeResponseDelivery (beforeCompleted : TurnM Unit) : TurnM Bool := do
  let state ← readResponse
  match state with
  | none => pure false
  | some state =>
    if state.finalized then pure true
    else if !state.semanticCompleted || state.terminalError.isSome then pure false
    else if (Text.trim state.accumulatedText).length = 0 then
      recordTerminalError (.ofCode .responseStreamFailed)
      pure false
    else
      let deferred ← announceDeferred c state
      if !deferred then pure false
      else
        let final ← announce c (.finalText state.accumulatedText)
        if !final then pure false
        else
          beforeCompleted
          announceCompleted c

/-- `applyResponseDeadline`. -/
def applyResponseDeadline (callerCancelled : Bool) (elapsed : Rat) : TurnM Unit := do
  let state ← readResponse
  match state with
  | none => pure ()
  | some state =>
    onlyIf (!(callerCancelled || state.semanticCompleted || state.terminalError.isSome ||
        elapsed < c.options.responseCompletionTimeoutMs))
      (failResponse c (.ofCode .responseStreamFailed))

/-! ## Before the submission -/

/-- `resolveExpectedRoute`. -/
def resolveExpectedRoute : TurnM RouteExpectation :=
  match c.target with
  | .thread threadHandle => do
    let run ← get
    match run.registry.resolve threadHandle with
    | .ok locator => pure (.thread locator)
    | .error error => fail error
  | .fresh => pure .freshRoot
  | .project locator => pure (.projectRoot locator)

/-- The checks of the composer's node. -/
def composerNode (composer : CdpTurnComposerState) : TurnM (Option Rat) :=
  match composer.backendDOMNodeId with
  | none => fail (.ofCode .turnInputFailed)
  | some backendDOMNodeId =>
    if !isSafeInteger backendDOMNodeId || backendDOMNodeId ≤ 0 then fail (.ofCode .turnInputFailed)
    else pure (some backendDOMNodeId)

/-- The checks of a composer: the node to submit from, for a thread and a project. -/
def checkComposer (composer : CdpTurnComposerState) : TurnM (Option Rat) :=
  if !composer.expectedRoute || !composer.eligible || !composer.focused || !composer.empty then
    fail (.ofCode .turnInputFailed)
  else if c.listening && (!c.port.takeTurnResponseEvents || !c.port.discardTurnResponse) then
    fail (.ofCode .responseStreamUnavailable)
  else
    match c.target with
    | .project _ =>
      if !c.port.insertTextIntoProjectComposer || !c.port.clickTurnSendButton then
        fail (.ofCode .turnInputFailed)
      else composerNode composer
    | .thread _ =>
      if !c.port.clickExistingTurnSendButton then fail (.ofCode .turnInputFailed)
      else composerNode composer
    | .fresh => pure none

/-- The first `try` of `executeScheduled`. -/
def prepareComposer (expectedRoute : RouteExpectation) : TurnM (Option Rat) := do
  match ← ask c.environment.waitForTurnComposer with
  | .pending => throw .pending
  | .markedUncertain error =>
    record (.markedUncertain c.lease)
    fail error
  | .settled (.error error) => fail error
  | .settled (.ok ()) =>
    let composer ← withTimeout c true "Timed out revalidating the turn composer."
      (.getTurnComposerState expectedRoute) c.environment.getTurnComposerState
    checkComposer c composer

/-- The error of `rethrowPreCommit`. -/
def preCommitError (error : ThrownError) : ThrownError :=
  if error.isInstance .runtimeGenerationChanged || error.isInstance .operationAborted ||
      error.isInstance .cdpDisconnected || error.isInstance .responseStreamUnavailable ||
      error.isInstance .turnInputFailed then
    error
  else .ofCode .turnInputFailed

/-- A `try` whose `catch` is `rethrowPreCommit`. An unavailable response stream is thrown on by it,
as it is where the source tests for it first. -/
def beforeCommit {α : Type} (x : TurnM α) : TurnM α :=
  rescue x fun error => fail (preCommitError error)

/-- `armTurnObservation`. -/
def armTurnObservation : TurnM Unit := do
  match ← ask c.environment.armTurnObservation with
  | .ok () => record (.armedTurnObservation c.listening)
  | .error error => fail error

/-- Whether the mutating commands are given the signal (`mutationTimeoutOptions`). -/
def passesSignal : Bool := c.port.boundMutationCancellation

/-- The insertion command: the composer's form, for a project. -/
def insertionCommand (node : Option Rat) : TurnM (Option Rat) :=
  match c.target with
  | .project projectLocator => do
    let form ← withTimeout c (passesSignal c) "Timed out waiting for the Project input command."
      (.insertTextIntoProjectComposer c.text projectLocator node)
      c.environment.insertTextIntoProjectComposer
    pure (some form)
  | .thread _ | .fresh => do
    withTimeout c (passesSignal c) "Timed out waiting for the CDP input command."
      (.insertText c.text) c.environment.insertText
    pure none

/-- The insertion and its `catch`. -/
def insertPrompt (node : Option Rat) : TurnM (Option Rat) := do
  match ← attempt (insertionCommand c node) with
  | .ok form => pure form
  | .error error =>
    if error.isInstance .runtimeGenerationChanged then rethrowGenerationChange error
    else if isProject c || error.isInstance .cdpDisconnected || error.isInstance .operationTimeout then
      failClosed c error
    else
      assertNoObservedPreSubmitWrite c false
      fail (.ofCode .turnInputFailed)

/-! ## The submission -/

/-- `rethrowPostCommitCommand`. -/
def rethrowPostCommitCommand (error : ThrownError) : TurnM Unit :=
  if error.isInstance .runtimeGenerationChanged then rethrowGenerationChange error
  else if error.isInstance .cdpDisconnected || error.isInstance .operationTimeout then
    failClosed c error
  else pure ()

/-- A command after the commit point: whether it was accepted. -/
def postCommitCommand (command : TurnM Unit) : TurnM Bool := do
  match ← attempt command with
  | .ok () => pure true
  | .error error =>
    rethrowPostCommitCommand c error
    pure false

/-- The click that submits a project turn. -/
def clickTurnSendButton (projectLocator : ProjectLocator) (node form : Option Rat) : TurnM Unit := do
  match ← attempt (withTimeout c (passesSignal c)
      "Timed out waiting for the Project turn send control."
      (.clickTurnSendButton projectLocator node form c.text)
      c.environment.clickTurnSendButton) with
  | .ok () => pure ()
  | .error error =>
    if error.isInstance .runtimeGenerationChanged then rethrowGenerationChange error
    else failClosed c error

/-- The click that submits a turn of a thread. -/
def clickExistingTurnSendButton (expectedRoute : RouteExpectation) (node : Option Rat) :
    TurnM Unit := do
  match expectedRoute with
  | .thread locator =>
    let _ ← postCommitCommand c (withTimeout c (passesSignal c)
      "Timed out waiting for the existing-thread send control."
      (.clickExistingTurnSendButton locator node c.text)
      c.environment.clickExistingTurnSendButton)
    pure ()
  | .freshRoot | .projectRoot _ => failClosed c (.ofCode .turnInputFailed)

/-- The key presses that submit a fresh turn. -/
def pressEnter : TurnM Unit := do
  let keyDownAccepted ← postCommitCommand c (withTimeout c (passesSignal c)
    "Timed out waiting for Enter keyDown." .dispatchEnterKeyDown
    c.environment.dispatchEnterKeyDown)
  onlyIf keyDownAccepted do
    let _ ← postCommitCommand c (withTimeout c (passesSignal c)
      "Timed out waiting for Enter keyUp." .dispatchEnterKeyUp c.environment.dispatchEnterKeyUp)
    pure ()

/-- The commands that submit the turn. -/
def submit (expectedRoute : RouteExpectation) (node form : Option Rat) : TurnM Unit :=
  match c.target with
  | .project projectLocator => clickTurnSendButton c projectLocator node form
  | .thread _ => clickExistingTurnSendButton c expectedRoute node
  | .fresh => pressEnter c

/-! ## The outcome -/

/-- The variables of the loop of `waitForTurnOutcome`. -/
structure PollState where
  committedAt : Rat
  writeObservedAt : Option Rat := none
  previousLifecycle : Option CdpWriteLifecycleState := none
  freshLocator : Option ConversationLocator := none
  lastFreshRouteError : Option ThrownError := none
  callerCancelled : Bool
deriving DecidableEq, Repr

/-- A poll goes on to the next one, after a sleep, or has the result. -/
inductive PollOutcome where
  | again (state : PollState)
  | done (result : TurnResult)
deriving DecidableEq, Repr

/-- The time since the write was observed; `null` counts as zero. -/
def PollState.sinceObserved (state : PollState) (now : Rat) : Rat :=
  now - state.writeObservedAt.getD 0

/-- Keep what a poll that found a write remembers of it. -/
def PollState.observeWrite (state : PollState) (write : CdpWriteLifecycleState) (now : Rat) :
    PollState :=
  { state with
    writeObservedAt :=
      if state.writeObservedAt.isNone ∨ (state.previousLifecycle ≠ some .ACTIVE ∧ write = .ACTIVE) then
        some now
      else state.writeObservedAt
    previousLifecycle := some write }

/-- The error of a conversation that was not created. -/
def conversationNotCreated (code : ThreadwireErrorCode) (cause : Option ThrownError) : ThrownError :=
  (ThrownError.ofCode code).withCause cause

/-- `throwConversationNotCreated`. -/
def throwConversationNotCreated (cause : Option ThrownError) : TurnM PollOutcome :=
  if isProject c then failClosed c (conversationNotCreated .projectConversationNotCreated cause)
  else fail (conversationNotCreated .freshConversationNotCreated cause)

/-- Throw an error, after marking the lease in a turn of a project. -/
def throwOrFailClosed {α : Type} (error : ThrownError) : TurnM α :=
  if isProject c then failClosed c error else fail error

/-- `throwWriteFailed`. -/
def throwWriteFailed : TurnM PollOutcome := throwOrFailClosed c (.ofCode .turnWriteFailed)

/-- Whether the target has a conversation at this locator: one of its project, or an unscoped one
for a fresh turn. -/
def ownsConversation (locator : ConversationLocator) : Except ThrownError Bool :=
  match c.target with
  | .project projectLocator => conversationBelongsToProject c.parseUrl locator projectLocator
  | .fresh => isUnscopedConversationLocator c.parseUrl locator
  | .thread _ => .ok true

/-- Read the current route. -/
def readRoute (message : String) : TurnM (Option ConversationLocator) := do
  let locator ← withTimeout c false message .getCurrentConversationLocator
    c.environment.getCurrentConversationLocator
  record (.routeRead locator)
  pure locator

/-- The `catch` of the first route read of a poll. -/
def freshRouteFailed (state : PollState) (write : CdpWriteLifecycleState) (error : ThrownError) :
    TurnM PollState :=
  if error.isInstance .runtimeGenerationChanged then rethrowGenerationChange error
  else if error.isInstance .cdpDisconnected && write == .ACTIVE then failClosed c error
  else pure { state with lastFreshRouteError := some (sanitizedTurnCause error) }

/-- The first route read of a poll. Where the test of the locator throws, the locator is kept. -/
def readFreshRoute (state : PollState) (write : CdpWriteLifecycleState) : TurnM PollState := do
  match ← attempt (readRoute c "Timed out observing the resulting conversation route.") with
  | .error error => freshRouteFailed c state write error
  | .ok none => pure { state with freshLocator := none }
  | .ok (some locator) =>
    match ownsConversation c locator with
    | .ok true => pure { state with freshLocator := some locator }
    | .ok false => pure { state with freshLocator := none }
    | .error error => freshRouteFailed c { state with freshLocator := some locator } write error

/-- The `catch` of the second route read of a poll. -/
def currentRouteFailed (state : PollState) (current : Option ConversationLocator)
    (error : ThrownError) : TurnM (Option ConversationLocator × PollState) :=
  if error.isInstance .runtimeGenerationChanged then rethrowGenerationChange error
  else pure (current, { state with lastFreshRouteError := some (sanitizedTurnCause error) })

/-- The second route read of a poll: for a project it must be equal to the first. -/
def readCurrentRoute (state : PollState) (freshLocator : ConversationLocator) :
    TurnM (Option ConversationLocator × PollState) := do
  match ← attempt (readRoute c "Timed out revalidating the resulting conversation route.") with
  | .error error => currentRouteFailed state none error
  | .ok none => pure (none, state)
  | .ok (some current) =>
    match ownsConversation c current with
    | .ok owned =>
      if !owned || (isProject c && current ≠ freshLocator) then pure (none, state)
      else pure (some current, state)
    | .error error => currentRouteFailed state (some current) error

/-- `registry.registerWithStatus`. -/
def registerWithStatus (locator : ConversationLocator) : TurnM ThreadRegistrationResult := do
  let handleFactory ← ask c.environment.handleFactory
  let result ← onRegistry (ThreadRegistry.registerWithStatus c.parseUrl handleFactory locator)
  record (.registered locator result)
  pure result

/-- `registerProjectConversation`. -/
def registerProjectConversation (locator : ConversationLocator) :
    TurnM ThreadRegistrationResult := do
  match ← attempt (registerWithStatus c locator) with
  | .error error => failClosed c error
  | .ok registration =>
    if !registration.created then failClosed c (.ofCode .projectConversationNotCreated)
    else pure registration

/-- `registry.reserveProvisionalWithStatus`. -/
def reserveProvisionalWithStatus (locator : ConversationLocator) :
    TurnM ProvisionalThreadRegistrationResult := do
  let handleFactory ← ask c.environment.handleFactory
  let result ← onRegistry
    (ThreadRegistry.reserveProvisionalWithStatus c.parseUrl handleFactory locator)
  record (.reserved locator result)
  pure result

/-- `reserveProjectConversation`, and the assignment of its result. -/
def reserveProjectConversation (locator : ConversationLocator) : TurnM Unit := do
  match ← attempt (reserveProvisionalWithStatus c locator) with
  | .error error => failClosed c error
  | .ok registration =>
    if !registration.created then failClosed c (.ofCode .projectConversationNotCreated)
    else modify fun run => { run with projectRegistration := some registration }

/-- What is done between `FINAL_TEXT` and `COMPLETED`. -/
def beforeCompleted (locator : ConversationLocator) : TurnM Unit :=
  onlyIf (isProject c) do
    let aborted ← isAborted c
    onlyIf aborted (failClosed c (operationAborted c))
    reserveProjectConversation c locator

/-- Roll the project's reservation back, if there is one. -/
def rollbackReservation : TurnM Unit := do
  let run ← get
  match run.projectRegistration.bind (·.transaction) with
  | none => pure ()
  | some transaction =>
    let _ ← onRegistry (ThreadRegistry.rollbackProvisional transaction)
    record (.rolledBack transaction)

/-- `createPendingProjectResult`. -/
def createPendingProjectResult (threadHandle : ThreadHandle)
    (transaction : ProvisionalThreadRegistrationToken) : TurnM PollOutcome := do
  modify fun run => { run with pendingProjectCompletion := some ⟨c.lease, transaction⟩ }
  pure (.done { threadHandle, created := true })

/-- The result of a registration. -/
def registeredResult (registration : ThreadRegistrationResult) : PollOutcome :=
  .done { threadHandle := registration.threadHandle, created := registration.created }

/-- The error that the response has come to. -/
def responseError : TurnM (Option ThrownError) := do
  let state ← readResponse
  pure (state.bind (·.terminalError))

/-- The end of a new conversation's turn that streams its response. -/
def finishStreaming (state : PollState) (locator : ConversationLocator)
    (freshRegistration : Option ThreadRegistrationResult) : TurnM PollOutcome := do
  modify fun run => { run with projectRegistration := none }
  let finalized ← finalizeResponseDelivery c (beforeCompleted c locator)
  match ← responseError with
  | some error =>
    rollbackReservation
    throwOrFailClosed c error
  | none =>
    if !finalized then pure (.again state)
    else
      let run ← get
      match run.projectRegistration, freshRegistration with
      | some registration, _ =>
        match registration.transaction with
        | none => failClosed c (.ofCode .projectConversationNotCreated)
        | some transaction => createPendingProjectResult c registration.threadHandle transaction
      | none, some registration => pure (registeredResult registration)
      | none, none =>
        let registration ← registerProjectConversation c locator
        pure (registeredResult registration)

/-- The end of a new conversation's turn without a listener. -/
def finishPlain (locator : ConversationLocator)
    (freshRegistration : Option ThreadRegistrationResult) : TurnM PollOutcome := do
  let aborted ← isAborted c
  onlyIf (isProject c && aborted) (failClosed c (operationAborted c))
  match freshRegistration with
  | some registration => pure (registeredResult registration)
  | none =>
    let registration ← registerProjectConversation c locator
    pure (registeredResult registration)

/-- Register the conversation of a fresh turn; a project's must not be known yet. -/
def registerFresh (locator : ConversationLocator) : TurnM (Option ThreadRegistrationResult) :=
  if isProject c then do
    let run ← get
    match run.registry.hasLocator c.parseUrl locator with
    | .error error => fail error
    | .ok true => failClosed c (.ofCode .projectConversationNotCreated)
    | .ok false => pure none
  else do
    let registration ← registerWithStatus c locator
    pure (some registration)

/-- The end of a new conversation's turn, with its locator. -/
def finishFresh (state : PollState) (locator : ConversationLocator) : TurnM PollOutcome := do
  let response ← readResponse
  match response with
  | some response =>
    if response.terminalError.isNone && !response.semanticCompleted then pure (.again state)
    else
      let freshRegistration ← registerFresh c locator
      match response.terminalError with
      | some error => throwOrFailClosed c error
      | none => finishStreaming c state locator freshRegistration
  | none =>
    let freshRegistration ← registerFresh c locator
    finishPlain c locator freshRegistration

/-- Read the route a second time, and end the turn if it stands. -/
def revalidate (state : PollState) (freshLocator : ConversationLocator) : TurnM PollOutcome := do
  let (current, state) ← readCurrentRoute c state freshLocator
  let snapshot ← readTurnObservation c
  let aborted ← isAborted c
  updateResponseDelivery c snapshot aborted
  match snapshot.write with
  | none | some .ACTIVE =>
    failClosed c (.plain "The fresh turn write was not terminal at finalization.")
  | some .FAILED => throwWriteFailed c
  | some .FINISHED =>
    let aborted ← isAborted c
    if state.callerCancelled || aborted then throwOrFailClosed c (operationAborted c)
    else
      match current with
      | some locator => finishFresh c state locator
      | none =>
        let now ← ask c.environment.clock
        if c.options.freshConversationTimeoutMs ≤ state.sinceObserved now then
          throwConversationNotCreated c state.lastFreshRouteError
        else pure (.again state)

/-- The part of a poll from its last test for a cancellation. -/
def settle (state : PollState) (write : CdpWriteLifecycleState) (now : Rat) :
    TurnM PollOutcome := do
  let aborted ← isAborted c
  let state := { state with callerCancelled := state.callerCancelled || aborted }
  record (.checkedCancellation write state.callerCancelled)
  if state.callerCancelled then throwOrFailClosed c (operationAborted c)
  else
    match state.freshLocator with
    | some freshLocator => revalidate c state freshLocator
    | none =>
      if write = .FINISHED ∧ c.options.freshConversationTimeoutMs ≤ state.sinceObserved now then
        throwConversationNotCreated c state.lastFreshRouteError
      else pure (.again state)

/-- Wait on where the conversation is known and its write is still active. -/
def settleUnlessActive (state : PollState) (write : CdpWriteLifecycleState) (now : Rat) :
    TurnM PollOutcome :=
  if !isThread c && state.freshLocator.isSome && write == .ACTIVE then pure (.again state)
  else settle c state write now

/-- The part of a poll that looks for the new conversation, if that is not known. -/
def lookForConversation (state : PollState) (write : CdpWriteLifecycleState) (now : Rat) :
    TurnM PollOutcome :=
  if !isThread c && state.freshLocator.isNone then do
    let state ← readFreshRoute c state write
    let snapshot ← readTurnObservation c
    let aborted ← isAborted c
    updateResponseDelivery c snapshot (state.callerCancelled || aborted)
    match snapshot.write with
    | none => failClosed c (.plain "The committed turn observation became inconsistent.")
    | some .FAILED => throwWriteFailed c
    | some .ACTIVE =>
      if state.previousLifecycle ≠ some .ACTIVE then
        let observedAt ← ask c.environment.clock
        pure (.again
          { state with writeObservedAt := some observedAt, previousLifecycle := some .ACTIVE })
      else pure (.again { state with previousLifecycle := some .ACTIVE })
    | some .FINISHED => settleUnlessActive c state write now
  else settleUnlessActive c state write now

/-- The end of a thread's turn whose write is finished. -/
def finishThread (state : PollState) (threadHandle : ThreadHandle) : TurnM PollOutcome := do
  let aborted ← isAborted c
  if state.callerCancelled || aborted then fail (operationAborted c)
  else
    let response ← readResponse
    match response with
    | none => pure (.done { threadHandle, created := false })
    | some response =>
      match response.terminalError with
      | some error => fail error
      | none =>
        if !response.semanticCompleted then pure (.again state)
        else
          let finalized ← finalizeResponseDelivery c (pure ())
          match ← responseError with
          | some error => fail error
          | none =>
            if !finalized then pure (.again state)
            else pure (.done { threadHandle, created := false })

/-- A poll that found a write. -/
def pollWrite (state : PollState) (write : CdpWriteLifecycleState) (now : Rat) :
    TurnM PollOutcome := do
  applyResponseDeadline c state.callerCancelled (state.sinceObserved now)
  match write with
  | .ACTIVE =>
    if c.options.writeSettlementTimeoutMs ≤ state.sinceObserved now then
      failClosed c (.plain "The observed write did not settle before its engineering deadline.")
    else lookForConversation c state write now
  | .FAILED => throwWriteFailed c
  | .FINISHED =>
    match c.target with
    | .thread threadHandle => finishThread c state threadHandle
    | .fresh | .project _ => lookForConversation c state write now

/-- One round of the loop of `waitForTurnOutcome`, without the sleep at its end. -/
def poll (state : PollState) : TurnM PollOutcome := do
  let aborted ← isAborted c
  record (.polled aborted)
  let state := { state with callerCancelled := state.callerCancelled || aborted }
  let now ← ask c.environment.clock
  let snapshot ← readTurnObservation c
  updateResponseDelivery c snapshot state.callerCancelled
  match snapshot.write with
  | none =>
    if c.options.writeObservationTimeoutMs ≤ now - state.committedAt then
      failClosed c (.plain
        "The committed turn did not produce an observable write before its engineering deadline.")
    else pure (.again state)
  | some write => pollWrite c (state.observeWrite write now) write now

/-- The loop of `waitForTurnOutcome`, for as many rounds as there is fuel. -/
def pollLoop : ℕ → PollState → TurnM TurnResult
  | 0, _ => throw .pending
  | fuel + 1, state => do
    match ← poll c state with
    | .done result => pure result
    | .again state =>
      sleep
      pollLoop fuel state

/-- `waitForTurnOutcome`. -/
def waitForTurnOutcome (fuel : ℕ) (initiallyCancelled : Bool) : TurnM TurnResult := do
  let committedAt ← ask c.environment.clock
  pollLoop c fuel { committedAt, callerCancelled := initiallyCancelled }

/-- The response state of a turn with a listener. -/
def startResponse : TurnM Unit :=
  onlyIf c.listening do
    assertNoObservedPreSubmitWrite c false
    modify fun run => { run with responseState := some { deliveryDeferred := isProject c } }

/-- The second `try` of `executeScheduled`, before the commit point: the composer's form. -/
def insertWhileIdle (node : Option Rat) : TurnM (Option Rat) := do
  throwIfAborted c
  startResponse c
  throwIfAborted c
  let form ← insertPrompt c node
  assertNoObservedPreSubmitWrite c (isProject c)
  let aborted ← isAborted c
  onlyIf (isProject c && aborted) (failClosed c (operationAborted c))
  throwIfAborted c
  pure form

/-- The second `try` of `executeScheduled`. `onAbort` sets `callerCancelled` at any time after the
commit point. -/
def runTurn (fuel : ℕ) (expectedRoute : RouteExpectation) (node : Option Rat) :
    TurnM TurnResult := do
  let form ← insertWhileIdle c node
  record .committed
  submit c expectedRoute node form
  let callerCancelled ← isAborted c
  waitForTurnOutcome c fuel callerCancelled

/-- `releaseTurnObservation`. -/
def releaseTurnObservation : TurnM Unit := do
  match ← ask c.environment.releaseTurnObservation with
  | .ok () => record (.releasedTurnObservation none)
  | .error error =>
    record (.releasedTurnObservation (some error))
    fail error

/-- `executeScheduled`. -/
def executeScheduled (fuel : ℕ) : TurnM TurnResult := do
  let expectedRoute ← resolveExpectedRoute c
  let node ← beforeCommit (prepareComposer c expectedRoute)
  beforeCommit (armTurnObservation c)
  finalize (runTurn c fuel expectedRoute node) (releaseTurnObservation c)

/-- `executeInternal`. The scheduler refuses the operation, or starts it and settles as it does. -/
def executeInternal (fuel : ℕ) : TurnM TurnResult :=
  if c.text.length = 0 then fail (.ofCode .turnInputFailed)
  else
    match c.environment.refusal with
    | some error => fail error
    | none => executeScheduled c fuel

/-- `execute`. -/
def execute (fuel : ℕ) : TurnM TurnResult := executeInternal { c with listening := false } fuel

/-- `executeStreaming`. -/
def executeStreaming (fuel : ℕ) : TurnM TurnResult := executeInternal { c with listening := true } fuel

end TurnExecutor

/-! ## A turn that goes well -/

/-- A registry that knows one thread. -/
def oneThread : ThreadRegistry :=
  { committedHandleToLocator := OrderedMap.empty.set "tw_a" "https://chatgpt.com/c/a"
    locatorToHandle := OrderedMap.empty.set "https://chatgpt.com/c/a" "tw_a" }

/-- Everything succeeds at once, and the observation shows these snapshots. -/
def smoothEnvironment (snapshots : ℕ → CdpTurnObservationSnapshot) : TurnEnvironment where
  clock _ := 0
  waitForTurnComposer _ := .settled (.ok ())
  getTurnComposerState _ := .settled (.ok
    { expectedRoute := true, eligible := true, focused := true, empty := true
      backendDOMNodeId := some 1 })
  armTurnObservation _ := .ok ()
  getTurnObservation question := .ok (snapshots question)
  takeTurnResponseEvents _ := .ok []
  discardTurnResponse _ := .ok ()
  releaseTurnObservation _ := .ok ()
  insertText _ := .settled (.ok ())
  insertTextIntoProjectComposer _ := .settled (.ok 1)
  clickTurnSendButton _ := .settled (.ok ())
  clickExistingTurnSendButton _ := .settled (.ok ())
  dispatchEnterKeyDown _ := .settled (.ok ())
  dispatchEnterKeyUp _ := .settled (.ok ())
  getCurrentConversationLocator _ := .settled (.ok none)
  listenerThrows _ := false
  handleFactory _ _ := .ok "b"

end Threadwire
