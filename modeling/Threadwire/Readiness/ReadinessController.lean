import Threadwire.Domain.RuntimeGeneration
import Threadwire.Effect.Basic
import Threadwire.Readiness.ReadinessGates

/-!
# The readiness controller

`readiness/ReadinessController.ts`: waiting for a route to be ready, and the proof that a fresh wait
leaves for the next turn.

A call is a computation over the controller's `ReadinessRun`. What it asks of the page, the clock
and the timers is answered by a table, the `ReadinessEnvironment`, by the number of the question;
a signal is aborted when a certain number of questions was asked. The log records what was observed
and done, and the calls themselves.
-/

namespace Threadwire

/-- How `focusBackendNode` ends: a `ReadinessCandidateChangedError` comes before the raw command. -/
inductive FocusOutcome where
  | succeeded
  | candidateChanged
  | failed (error : ThrownError)
deriving DecidableEq, Repr

/-- A public method of the controller, with its route. -/
inductive ReadinessMethod where
  | waitForExistingRoute (expectedLocator : ConversationLocator)
  | waitForFreshRoute
  | isProjectRouteCurrent (projectLocator : ProjectLocator)
  | waitForProjectRoute (projectLocator : ProjectLocator)
  | waitForTurnComposer (expectedRoute : RouteExpectation)
deriving DecidableEq, Repr

/-- What the controller observes and does, in order. `passed` is the end of a `waitForRoute`: the
route, the last snapshot, and whether the gate was one of the fresh policy. -/
inductive ReadinessEvent where
  | called (method : ReadinessMethod) (lease : RuntimeLease)
  | returned (method : ReadinessMethod) (lease : RuntimeLease)
  | observed (snapshot : ExistingReadinessSnapshot)
  | dismissed (outcome : Except ThrownError Unit)
  | focused (backendDOMNodeId : Rat) (outcome : FocusOutcome)
  | readClock (now : Rat)
  | passed (expectedRoute : RouteExpectation) (snapshot : ExistingReadinessSnapshot) (fresh : Bool)
deriving DecidableEq, Repr

/-- `FreshReadinessProof`. -/
structure FreshReadinessProof where
  lease : RuntimeLease
  expectedRoute : RouteExpectation
  frameId : String
  loaderId : String
  backendDOMNodeId : Rat
deriving DecidableEq, Repr

/-- What the calls change. -/
structure ReadinessRun where
  asked : ℕ := 0
  log : List ReadinessEvent := []
  freshReadinessProof : Option FreshReadinessProof := none

/-- What the controller is answered, by the number of the question. `deadline` says when the timer
that is started fires, if it does. -/
structure ReadinessEnvironment where
  getReadinessSnapshot : ℕ → Except ThrownError ExistingReadinessSnapshot
  dismissKnownFreshNotice : ℕ → Except ThrownError Unit
  focusBackendNode : ℕ → FocusOutcome
  sleep : ℕ → Except ThrownError Unit
  clock : ℕ → Rat
  deadline : ℕ → Option ℕ

/-- The parts of a `ReadinessController`: its policies, and its port, which may have the optional
method `dismissKnownFreshNotice`. -/
structure ReadinessController where
  existingPolicy : ExistingReadinessPolicy := {}
  freshPolicy : FreshReadinessPolicy := {}
  dismissesKnownFreshNotice : Bool := true
  environment : ReadinessEnvironment

/-- When a signal is aborted, if ever, and with which reason. -/
abbrev AbortTime := Option (ℕ × Option ThrownError)

/-- A piece of a call. -/
abbrev ReadinessM := Effect ReadinessRun (Interrupt ThrownError)

namespace ReadinessController

open Effect

/-- Append to the log. -/
def record (event : ReadinessEvent) : ReadinessM Unit :=
  modify fun run => { run with log := run.log ++ [event] }

/-- Ask a question. -/
def ask {α : Type} (answers : ℕ → α) : ReadinessM α :=
  modifyGet fun run => (answers run.asked, { run with asked := run.asked + 1 })

/-- Set the proof. -/
def setFreshReadinessProof (proof : Option FreshReadinessProof) : ReadinessM Unit :=
  modify fun run => { run with freshReadinessProof := proof }

/-- Return or throw an answer. -/
def ofAnswer {α : Type} : Except ThrownError α → ReadinessM α
  | .ok a => pure a
  | .error error => fail error

/-- `throwIfAborted(signal)`. -/
def throwIfAborted (signal : AbortTime) : ReadinessM Unit := do
  let run ← get
  match signal with
  | none => pure ()
  | some (time, reason) => onlyIf (time ≤ run.asked) (fail (abortedError reason))

/-- The signal of `createDeadlineSignal`: it is aborted by its timer or by its parent. -/
def deadlineSignal (parent : AbortTime) (fires : Option ℕ) : AbortTime :=
  let timeout : ThrownError :=
    .ofCodeMessage .operationTimeout "Timed out waiting for route readiness."
  match parent, fires with
  | none, none => none
  | none, some timer => some (timer, some timeout)
  | some (time, reason), none =>
    some (time, some ((ThrownError.ofCode .operationAborted).withCause reason))
  | some (time, reason), some timer =>
    if time ≤ timer then some (time, some ((ThrownError.ofCode .operationAborted).withCause reason))
    else some (timer, some timeout)

/-! Their weakest preconditions. -/

section Primitives

variable {α : Type} {run : ReadinessRun} {E : Interrupt ThrownError → ReadinessRun → Prop}

@[simp] theorem wp_record (event : ReadinessEvent) {Q : Unit → ReadinessRun → Prop} :
    wp (record event) Q E run ↔ Q () { run with log := run.log ++ [event] } := Iff.rfl

@[simp] theorem wp_ask (answers : ℕ → α) {Q : α → ReadinessRun → Prop} :
    wp (ask answers) Q E run ↔ Q (answers run.asked) { run with asked := run.asked + 1 } := Iff.rfl

@[simp] theorem wp_setFreshReadinessProof (proof : Option FreshReadinessProof)
    {Q : Unit → ReadinessRun → Prop} :
    wp (setFreshReadinessProof proof) Q E run ↔ Q () { run with freshReadinessProof := proof } :=
  Iff.rfl

theorem wp_ofAnswer (answer : Except ThrownError α) {Q : α → ReadinessRun → Prop} :
    wp (ofAnswer answer) Q E run ↔
      match answer with
      | .ok a => Q a run
      | .error error => E (.thrown error) run := by
  cases answer <;> exact Iff.rfl

/-- A test of the signal throws or goes on. -/
theorem wp_throwIfAborted (signal : AbortTime) {Q : Unit → ReadinessRun → Prop} (hQ : Q () run)
    (hE : ∀ error, E (.thrown error) run) : wp (throwIfAborted signal) Q E run := by
  rw [throwIfAborted, wp_bind, wp_get]
  cases signal with
  | none => exact hQ
  | some abort =>
    rw [wp_onlyIf]
    split
    · exact hE _
    · exact hQ

end Primitives

variable (r : ReadinessController)

/-! ## The gates -/

/-- The two policies, as factories of gates. -/
inductive GateFactory where
  | existing
  | fresh
deriving DecidableEq, Repr

/-- A gate of one of the policies. -/
inductive ReadinessGate where
  | existing (gate : ExistingReadinessGate)
  | fresh (gate : FreshReadinessGate)
deriving DecidableEq, Repr

/-- Whether the gate is one of the fresh policy. -/
def ReadinessGate.isFresh : ReadinessGate → Bool
  | .existing _ => false
  | .fresh _ => true

/-- `createGate` of the policy. -/
def GateFactory.createGate : GateFactory → ReadinessGate
  | .existing => .existing {}
  | .fresh => .fresh {}

/-- `observe` of the gate. A fresh gate reads the clock only where its inner gate is ready. -/
def observeGate (gate : ReadinessGate) (snapshot : ExistingReadinessSnapshot) :
    ReadinessM (ReadinessAction × ReadinessGate) :=
  match gate with
  | .existing gate =>
    let (action, gate) := gate.observe r.existingPolicy snapshot
    pure (action, .existing gate)
  | .fresh gate =>
    match gate.existingGate.observe r.freshPolicy.existingPolicy snapshot with
    | (.READY, existingGate) => do
      let now ← ask r.environment.clock
      record (.readClock now)
      let (action, gate) := { gate with existingGate }.guard r.freshPolicy now
      pure (action, .fresh gate)
    | (action, existingGate) => pure (action, .fresh { existingGate, guardStartTime := none })

/-! ## `waitForRoute` -/

/-- The variables of the loop. -/
structure WaitState where
  activeGateFactory : GateFactory
  gate : ReadinessGate
deriving DecidableEq, Repr

/-- A round of the loop goes on to the next one, after a sleep or at once, or returns. -/
inductive WaitOutcome where
  | sleep (state : WaitState)
  | again (state : WaitState)
  | done (snapshot : ExistingReadinessSnapshot)
deriving DecidableEq, Repr

/-- A new gate of the active factory. -/
def WaitState.reset (state : WaitState) : WaitState :=
  { state with gate := state.activeGateFactory.createGate }

/-- Whether the notice of a snapshot may be dismissed. -/
def mayDismiss (expectedRoute : RouteExpectation) (snapshot : ExistingReadinessSnapshot) : Bool :=
  match expectedRoute, snapshot.blockingNotice with
  | .freshRoot, some (.KNOWN_FRESH_NOTICE _ _) =>
    snapshot.mainFrame.expectedRoute && r.dismissesKnownFreshNotice
  | _, _ => false

/-- The branch of a snapshot with a blocking notice. -/
def handleNotice (expectedRoute : RouteExpectation) (snapshot : ExistingReadinessSnapshot)
    (state : WaitState) : ReadinessM WaitOutcome := do
  setFreshReadinessProof none
  if mayDismiss r expectedRoute snapshot then
    let outcome ← ask r.environment.dismissKnownFreshNotice
    record (.dismissed outcome)
    ofAnswer outcome
    pure (.again { activeGateFactory := .fresh, gate := GateFactory.fresh.createGate })
  else pure (.sleep state.reset)

/-- The branch of a gate that wants a node focused. -/
def focus (backendDOMNodeId : Rat) (state : WaitState) : ReadinessM WaitOutcome := do
  let outcome ← ask r.environment.focusBackendNode
  record (.focused backendDOMNodeId outcome)
  match outcome with
  | .succeeded => pure (.sleep state)
  | .candidateChanged =>
    setFreshReadinessProof none
    pure (.sleep state.reset)
  | .failed error => fail error

/-- One round of the loop, without the sleep at its end. -/
def waitRound (expectedRoute : RouteExpectation) (signal : AbortTime) (state : WaitState) :
    ReadinessM WaitOutcome := do
  throwIfAborted signal
  let answer ← ask r.environment.getReadinessSnapshot
  let snapshot ← ofAnswer answer
  record (.observed snapshot)
  if snapshot.isBlocked then handleNotice r expectedRoute snapshot state
  else
    let (action, gate) ← observeGate r state.gate snapshot
    match action with
    | .READY =>
      record (.passed expectedRoute snapshot gate.isFresh)
      pure (.done snapshot)
    | .FOCUS backendDOMNodeId => focus r backendDOMNodeId { state with gate }
    | .WAIT => pure (.sleep { state with gate })

/-- The loop, for as many rounds as there is fuel. -/
def waitLoop (expectedRoute : RouteExpectation) (signal : AbortTime) :
    ℕ → WaitState → ReadinessM ExistingReadinessSnapshot
  | 0, _ => throw .pending
  | fuel + 1, state => do
    match ← waitRound r expectedRoute signal state with
    | .done snapshot => pure snapshot
    | .again state => waitLoop expectedRoute signal fuel state
    | .sleep state =>
      let answer ← ask r.environment.sleep
      ofAnswer answer
      waitLoop expectedRoute signal fuel state

/-- The errors that `waitForRoute` throws as they are; any other becomes the cause of a
`CdpReadinessFailedError`. -/
def routeError (error : ThrownError) : ThrownError :=
  if error.isInstance .operationAborted || error.isInstance .runtimeGenerationChanged ||
      error.isInstance .cdpReadinessFailed || error.isInstance .turnStateUncertain ||
      error.isInstance .operationTimeout then
    error
  else (ThrownError.ofCode .cdpReadinessFailed).withCause (some error)

/-- `waitForRoute`. -/
def waitForRoute (fuel : ℕ) (createGate : GateFactory) (expectedRoute : RouteExpectation)
    (signal : AbortTime) : ReadinessM ExistingReadinessSnapshot := do
  throwIfAborted signal
  let fires ← ask r.environment.deadline
  rescue (waitLoop r expectedRoute (deadlineSignal signal fires) fuel
      { activeGateFactory := createGate, gate := createGate.createGate })
    fun error => fail (routeError error)

/-! ## The public methods -/

/-- A timeout becomes the error of the route's own class. -/
def asTimeout (code : ThreadwireErrorCode) (error : ThrownError) : ThrownError :=
  if error.isInstance .operationTimeout then (ThrownError.ofCode code).withCause (some error)
  else error

/-- `waitForExistingRoute`. -/
def waitForExistingRoute (fuel : ℕ) (expectedLocator : ConversationLocator) (signal : AbortTime) :
    ReadinessM Unit := do
  setFreshReadinessProof none
  rescue (do
    let _ ← waitForRoute r fuel .existing (.thread expectedLocator) signal
    pure ())
    fun error => fail (asTimeout .existingRouteReadinessTimeout error)

/-- The part that `waitForFreshRoute` and `waitForProjectRoute` share: the proof of the wait. -/
def waitForNewRoute (fuel : ℕ) (expectedRoute : RouteExpectation) (lease : RuntimeLease)
    (signal : AbortTime) : ReadinessM Unit := do
  setFreshReadinessProof none
  rescue (do
    let snapshot ← waitForRoute r fuel .fresh expectedRoute signal
    match snapshot.eligibleEditables.head? with
    | none => fail (.ofCode .cdpReadinessFailed)
    | some composer =>
      setFreshReadinessProof (some
        { lease
          expectedRoute
          frameId := snapshot.mainFrame.frameId
          loaderId := snapshot.mainFrame.loaderId
          backendDOMNodeId := composer.backendDOMNodeId }))
    fun error => fail (asTimeout .freshRouteReadinessTimeout error)

/-- `waitForFreshRoute`. -/
def waitForFreshRoute (fuel : ℕ) (lease : RuntimeLease) (signal : AbortTime) : ReadinessM Unit :=
  waitForNewRoute r fuel .freshRoot lease signal

/-- `waitForProjectRoute`. -/
def waitForProjectRoute (fuel : ℕ) (projectLocator : ProjectLocator) (lease : RuntimeLease)
    (signal : AbortTime) : ReadinessM Unit :=
  waitForNewRoute r fuel (.projectRoot projectLocator) lease signal

/-- The errors that `isProjectRouteCurrent` throws as they are. -/
def projectRouteError (error : ThrownError) : ThrownError :=
  if error.isInstance .operationAborted || error.isInstance .operationTimeout ||
      error.isInstance .runtimeGenerationChanged || error.isInstance .cdpReadinessFailed then
    error
  else (ThrownError.ofCode .cdpReadinessFailed).withCause (some error)

/-- `isProjectRouteCurrent`. -/
def isProjectRouteCurrent (signal : AbortTime) : ReadinessM Bool := do
  setFreshReadinessProof none
  throwIfAborted signal
  rescue (do
    let answer ← ask r.environment.getReadinessSnapshot
    let snapshot ← ofAnswer answer
    record (.observed snapshot)
    throwIfAborted signal
    pure snapshot.mainFrame.expectedRoute)
    fun error => fail (projectRouteError error)

/-- `sameRouteExpectation`. -/
def sameRouteExpectation : RouteExpectation → RouteExpectation → Bool
  | .freshRoot, .freshRoot => true
  | .thread left, .thread right => left == right
  | .projectRoot left, .projectRoot right => left == right
  | _, _ => false

/-- Whether the proof stands for this turn. -/
def FreshReadinessProof.matches (proof : FreshReadinessProof) (lease : RuntimeLease)
    (expectedRoute : RouteExpectation) (snapshot : ExistingReadinessSnapshot) : Bool :=
  match snapshot.eligibleEditables.head? with
  | none => false
  | some composer =>
    sameRuntimeLease proof.lease lease && sameRouteExpectation proof.expectedRoute expectedRoute &&
      proof.frameId == snapshot.mainFrame.frameId && proof.loaderId == snapshot.mainFrame.loaderId &&
      proof.backendDOMNodeId == composer.backendDOMNodeId

/-- `waitForTurnComposer`. -/
def waitForTurnComposer (fuel : ℕ) (expectedRoute : RouteExpectation) (lease : RuntimeLease)
    (signal : AbortTime) : ReadinessM Unit := do
  let snapshot ← waitForRoute r fuel .existing expectedRoute signal
  let run ← get
  setFreshReadinessProof none
  match expectedRoute with
  | .thread _ => pure ()
  | .freshRoot | .projectRoot _ =>
    match run.freshReadinessProof with
    | some proof =>
      if FreshReadinessProof.matches proof lease expectedRoute snapshot then pure ()
      else do
        let _ ← waitForRoute r fuel .fresh expectedRoute signal
        pure ()
    | none =>
      let _ ← waitForRoute r fuel .fresh expectedRoute signal
      pure ()

/-! ## Calls, one after the other -/

/-- A call of a public method. -/
structure ReadinessCall where
  method : ReadinessMethod
  lease : RuntimeLease
  signal : AbortTime

/-- Perform a call; the log says that it was made, and that it returned. -/
def perform (fuel : ℕ) (call : ReadinessCall) : ReadinessM Unit := do
  record (.called call.method call.lease)
  match call.method with
  | .waitForExistingRoute expectedLocator =>
    waitForExistingRoute r fuel expectedLocator call.signal
  | .waitForFreshRoute => waitForFreshRoute r fuel call.lease call.signal
  | .isProjectRouteCurrent _ => do
    let _ ← isProjectRouteCurrent r call.signal
    pure ()
  | .waitForProjectRoute projectLocator =>
    waitForProjectRoute r fuel projectLocator call.lease call.signal
  | .waitForTurnComposer expectedRoute =>
    waitForTurnComposer r fuel expectedRoute call.lease call.signal
  record (.returned call.method call.lease)

/-- The controller after these calls, each made when the one before has settled. A call that never
settles is the last one. -/
def performAll (fuel : ℕ) : List ReadinessCall → ReadinessRun → ReadinessRun
  | [], run => run
  | call :: calls, run =>
    match perform r fuel call run with
    | (.error .pending, run) => run
    | (_, run) => performAll fuel calls run

end ReadinessController

end Threadwire
