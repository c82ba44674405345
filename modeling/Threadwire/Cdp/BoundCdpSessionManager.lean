import Threadwire.Cdp.CdpSessionManager
import Threadwire.Effect.Basic
import Threadwire.Runtime.CdpEndpointProvenance
import Threadwire.Runtime.ClassicSupervisor

/-!
# The session manager of a bound runtime

`cdp/BoundCdpSessionManager.ts` over `runtime/BoundRuntimeProvenanceGuard.ts` and the binding of
`runtime/CdpEndpointProvenance.ts`: each step of an attach and each mutation is preceded by a check
that the runtime and the owner of the endpoint's listener are still those that were admitted.

The calls do not overlap, so a call is a computation over the `BoundRun`; what it awaits is answered
by a table, by the number of the question. While it waits, other things happen: the session
disconnects, the runtime is observed by others, and a check that was given up on is answered late
and goes on, up to the next place where its aborted signal stops it.
-/

namespace Threadwire

/-- `RuntimeProvenanceGuardOperation`. -/
inductive RuntimeProvenanceGuardOperation where
  | BIND
  | ASSERT_CURRENT
deriving DecidableEq, Repr

/-- The stages of a guard operation. -/
inductive GuardStage where
  | initialRuntime
  | endpoint
  | finalRuntime
deriving DecidableEq, Repr

/-- A guard operation that `withTimeout` has given up, at the stage whose answer it awaits. -/
structure LateGuard where
  operation : RuntimeProvenanceGuardOperation
  lease : RuntimeLease
  stage : GuardStage
deriving DecidableEq, Repr

/-- What happens while a call waits. A late guard operation is named by its position. -/
inductive BackgroundInput where
  | disconnected (session : SessionId)
  | observed (identity : Option RuntimeIdentity)
  | lateProcesses (guard : ℕ) (outcome : Except ThrownError (List ClassicProcessInfo))
  | lateListener (guard : ℕ) (outcome : Except ThrownError ListenerProvenanceOutput)

/-- The mutating methods. Where the method takes a lease, it is the one that the caller expects. -/
inductive BoundMutation where
  | navigate
  | reload
  | navigateAndWaitForLoadSettlement
  | dismissKnownFreshNotice (lease : RuntimeLease)
  | focusBackendNode (lease : RuntimeLease)
  | insertText (lease : RuntimeLease)
  | insertTextIntoProjectComposer (lease : RuntimeLease)
  | dispatchEnterKeyDown (lease : RuntimeLease)
  | dispatchEnterKeyUp (lease : RuntimeLease)
  | clickTurnSendButton (lease : RuntimeLease)
  | clickExistingTurnSendButton (lease : RuntimeLease)
  | createProjectThroughUi (lease : RuntimeLease)
deriving DecidableEq, Repr

/-- The lease of the mutation, if it takes one. -/
def BoundMutation.lease? : BoundMutation → Option RuntimeLease
  | .navigate | .reload | .navigateAndWaitForLoadSettlement => none
  | .dismissKnownFreshNotice lease | .focusBackendNode lease | .insertText lease
  | .insertTextIntoProjectComposer lease | .dispatchEnterKeyDown lease | .dispatchEnterKeyUp lease
  | .clickTurnSendButton lease | .clickExistingTurnSendButton lease
  | .createProjectThroughUi lease => some lease

/-- How a mutation with a lease runs on the session. -/
def BoundMutation.kind : BoundMutation → SessionOperationKind
  | .insertText _ | .dispatchEnterKeyDown _ | .dispatchEnterKeyUp _ => .turn
  | .navigate | .reload | .navigateAndWaitForLoadSettlement | .dismissKnownFreshNotice _
  | .focusBackendNode _ | .insertTextIntoProjectComposer _ | .clickTurnSendButton _
  | .clickExistingTurnSendButton _ | .createProjectThroughUi _ => .readiness

/-- The methods that are called. -/
inductive BoundMethod where
  | bindExistingRuntime (lease : RuntimeLease)
  | connect
  | mutation (mutation : BoundMutation)
deriving DecidableEq, Repr

/-- What the manager does and observes, in order. A call ends with the session that the manager
holds then. -/
inductive BoundEvent where
  | called (method : BoundMethod)
  | leaseSet (lease : RuntimeLease)
  | bound (lease : RuntimeLease) (observation : ListenerProvenanceObservation)
  | runtimeObserved (lease : RuntimeLease)
  | ownerObserved (lease : RuntimeLease) (ownerIdentity : RuntimeIdentity)
  | connectAdmitted
  | attached
  | sessionCalled (mutation : BoundMutation)
  | returned (method : BoundMethod) (session : Option SessionId)
  | rejected (method : BoundMethod) (session : Option SessionId)
deriving DecidableEq, Repr

/-- What the calls change. -/
structure BoundRun where
  asked : ℕ := 0
  log : List BoundEvent := []
  manager : CdpSessionManager := {}
  sessions : ℕ := 0
  immutableLease : Option RuntimeLease := none
  binding : Option RuntimeIdentity := none
  tracker : RuntimeGenerationTracker := {}
  late : List LateGuard := []

/-- What the manager is answered, by the number of the question. `interrupt` says whether the
`withTimeout` of a guard operation gives up while it waits, and with which error. -/
structure BoundEnvironment where
  getClassicProcesses : ℕ → Except ThrownError (List ClassicProcessInfo)
  listener : ℕ → Except ThrownError ListenerProvenanceOutput
  interrupt : ℕ → Option ThrownError
  findPrimaryTarget : ℕ → Except ThrownError String
  assertTargetDebuggerEndpoint : String → Except ThrownError Unit
  transportConnect : ℕ → Except ThrownError Unit
  initializeReadinessObservation : ℕ → Except ThrownError Unit
  sessionOperation : ℕ → Except ThrownError Unit
  close : ℕ → Except ThrownError Unit
  background : ℕ → List BackgroundInput

/-- A `BoundCdpSessionManager` with its endpoint. -/
structure BoundCdpSessionManager where
  config : CdpEndpointConfig
  environment : BoundEnvironment

/-- When the signal of a call is aborted, if ever, and with which reason. -/
abbrev BoundSignal := Option (ℕ × Option ThrownError)

/-- A piece of a call. -/
abbrev BoundM := Effect BoundRun (Interrupt ThrownError)

namespace BoundCdpSessionManager

open Effect ListenerProvenance

/-- Append to the log. -/
def record (event : BoundEvent) : BoundM Unit :=
  modify fun run => { run with log := run.log ++ [event] }

/-- The manager's fields change. -/
def setManager (f : CdpSessionManager → CdpSessionManager) : BoundM Unit :=
  modify fun run => { run with manager := f run.manager }

/-- Return or throw an answer. -/
def ofAnswer {α : Type} : Except ThrownError α → BoundM α
  | .ok a => pure a
  | .error error => fail error

/-- `throwIfAborted(signal)`. -/
def throwIfAborted (signal : BoundSignal) : BoundM Unit := do
  let run ← get
  match signal with
  | none => pure ()
  | some (time, reason) => onlyIf (time ≤ run.asked) (fail (abortedError reason))

variable (r : BoundCdpSessionManager)

/-! ## What happens meanwhile -/

/-- The processes are answered to a guard operation that was given up. -/
def lateProcesses (run : BoundRun) (guard : LateGuard)
    (outcome : Except ThrownError (List ClassicProcessInfo)) : BoundRun :=
  match outcome with
  | .error _ => run
  | .ok processes =>
    let (outcome, tracker) := run.tracker.assertObserved processes guard.lease
    let run := { run with tracker }
    match outcome, guard.stage, guard.operation, run.binding with
    | .ok _, .initialRuntime, .BIND, none | .ok _, .initialRuntime, .ASSERT_CURRENT, some _ =>
      { run with late := run.late ++ [{ guard with stage := .endpoint }] }
    | _, _, _, _ => run

/-- The listener is answered to a guard operation that was given up. The next observation of the
runtime throws, because the signal is aborted. -/
def lateListener (run : BoundRun) (guard : LateGuard)
    (outcome : Except ThrownError ListenerProvenanceOutput) : BoundRun :=
  match outcome with
  | .error _ => run
  | .ok output =>
    match guard.operation, guard.stage,
      parseListenerProvenanceOutput output r.config guard.lease with
    | .BIND, .endpoint, .ok observation =>
      { run with
        binding := some observation.ownerIdentity
        log := run.log ++ [.bound guard.lease observation] }
    | _, _, _ => run

/-- One of the things that happen meanwhile. -/
def settleBackground (run : BoundRun) : BackgroundInput → BoundRun
  | .disconnected session =>
    if session < run.sessions then { run with manager := run.manager.disconnectCallback session }
    else run
  | .observed identity => { run with tracker := run.tracker.observe identity }
  | .lateProcesses position outcome =>
    match run.late[position]? with
    | some guard =>
      if guard.stage = .endpoint then run
      else lateProcesses { run with late := run.late.eraseIdx position } guard outcome
    | none => run
  | .lateListener position outcome =>
    match run.late[position]? with
    | some guard =>
      if guard.stage = .endpoint then
        lateListener r { run with late := run.late.eraseIdx position } guard outcome
      else run
    | none => run

/-- Await an answer. -/
def await {α : Type} (answers : ℕ → α) : BoundM α := do
  let run ← get
  set ((r.environment.background run.asked).foldl (settleBackground r)
    { run with asked := run.asked + 1 })
  pure (answers run.asked)

/-! ## The guard -/

/-- The error of a guard operation whose own `withTimeout` gives up. -/
def guardError (error : ThrownError) : ThrownError :=
  if error.isInstance .operationTimeout then unverified.withCause (some error) else error

/-- `throwIfAborted` inside a guard operation. -/
def guardNotAborted (signal : BoundSignal) : BoundM Unit :=
  rescue (throwIfAborted signal) fun error => fail (guardError error)

/-- Await the answer of a stage, unless `withTimeout` gives up first. -/
def awaitStage {α : Type} (guard : LateGuard) (answers : ℕ → Except ThrownError α) : BoundM α := do
  let run ← get
  match r.environment.interrupt run.asked with
  | some error =>
    set { run with late := run.late ++ [guard] }
    await r fun _ => ()
    fail (guardError error)
  | none =>
    let answer ← await r answers
    ofAnswer answer

/-- `assertRuntimeLeaseCurrentObserved`. -/
def assertRuntimeLeaseCurrentObserved (guard : LateGuard) (signal : BoundSignal) : BoundM Unit := do
  guardNotAborted signal
  let processes ← awaitStage r guard r.environment.getClassicProcesses
  let run ← get
  set { run with tracker := (run.tracker.assertObserved processes guard.lease).2 }
  ofAnswer (run.tracker.assertObserved processes guard.lease).1
  record (.runtimeObserved guard.lease)

/-- The error of a failed observation of the listener. -/
def observeError (error : ThrownError) : ThrownError :=
  if error.isInstance .operationAborted || error.isInstance .runtimeProvenanceUnverified then error
  else unverified.withCause (some error)

/-- `observe` of the endpoint's provenance. -/
def observe (operation : RuntimeProvenanceGuardOperation) (expectedLease : RuntimeLease) :
    BoundM ListenerProvenanceObservation := do
  let output ← awaitStage r ⟨operation, expectedLease, .endpoint⟩
    fun question => (r.environment.listener question).mapError observeError
  ofAnswer (parseListenerProvenanceOutput output r.config expectedLease)

/-- `bindOwnedEndpoint`. -/
def bindOwnedEndpoint (expectedLease : RuntimeLease) : BoundM Unit := do
  let run ← get
  onlyIf run.binding.isSome (fail unverified)
  let observation ← observe r .BIND expectedLease
  modify fun run => { run with binding := some observation.ownerIdentity }
  record (.bound expectedLease observation)

/-- `assertOwnedEndpointCurrent`. -/
def assertOwnedEndpointCurrent (expectedLease : RuntimeLease) : BoundM Unit := do
  let run ← get
  match run.binding with
  | none => fail unverified
  | some ownerIdentity =>
    let observation ← observe r .ASSERT_CURRENT expectedLease
    onlyIf (!sameRuntimeIdentity observation.ownerIdentity ownerIdentity) (fail unverified)
    record (.ownerObserved expectedLease observation.ownerIdentity)

/-- `bind` and `assertCurrent` of the guard, inside a `withTimeout`. -/
def runGuard (operation : RuntimeProvenanceGuardOperation) (expectedLease : RuntimeLease)
    (signal : BoundSignal) : BoundM Unit := do
  guardNotAborted signal
  assertRuntimeLeaseCurrentObserved r ⟨operation, expectedLease, .initialRuntime⟩ signal
  match operation with
  | .BIND => bindOwnedEndpoint r expectedLease
  | .ASSERT_CURRENT => assertOwnedEndpointCurrent r expectedLease
  assertRuntimeLeaseCurrentObserved r ⟨operation, expectedLease, .finalRuntime⟩ signal
  guardNotAborted signal

/-- `provenance.assertCurrent`. -/
def assertCurrent (lease : RuntimeLease) (signal : BoundSignal) : BoundM Unit :=
  runGuard r .ASSERT_CURRENT lease signal

/-- `requireImmutableLease`. -/
def requireImmutableLease : BoundM RuntimeLease := do
  let run ← get
  match run.immutableLease with
  | none => fail (.ofCode .runtimeGenerationChanged)
  | some lease => pure lease

/-- `guardCurrent`. -/
def guardCurrent (signal : BoundSignal) : BoundM Unit := do
  let lease ← requireImmutableLease
  assertCurrent r lease signal

/-- `guardExpectedLease`. -/
def guardExpectedLease (lease : RuntimeLease) (signal : BoundSignal) : BoundM Unit := do
  let expected ← requireImmutableLease
  onlyIf (!sameRuntimeLease expected lease) (fail (.ofCode .runtimeGenerationChanged))
  assertCurrent r expected signal

/-! ## `connect` -/

/-- `findPrimaryTarget` of the `GuardedDiscovery`. -/
def findPrimaryTarget (signal : BoundSignal) : BoundM String := do
  let lease ← requireImmutableLease
  assertCurrent r lease signal
  let answer ← await r r.environment.findPrimaryTarget
  let targetId ← ofAnswer answer
  ofAnswer (r.environment.assertTargetDebuggerEndpoint targetId)
  assertCurrent r lease signal
  pure targetId

/-- `session.close()`. -/
def closeSession : BoundM Unit := do
  let answer ← await r r.environment.close
  ofAnswer answer

/-- `attachTransport` of the base class, through the `GuardedTransport`. A session that comes after
the timeout is not the manager's. -/
def baseAttachTransport : BoundM SessionId := do
  let answer ← await r r.environment.transportConnect
  ofAnswer answer
  let run ← get
  set { run with sessions := run.sessions + 1 }
  pure run.sessions

/-- `attachTransport`. -/
def attachTransport (signal : BoundSignal) : BoundM SessionId := do
  let lease ← requireImmutableLease
  assertCurrent r lease signal
  let session ← baseAttachTransport r
  rescue (assertCurrent r lease signal) fun error => do
    closeSession r
    fail error
  pure session

/-- `initializeReadinessObservation`. -/
def initializeReadinessObservation (signal : BoundSignal) : BoundM Unit := do
  let lease ← requireImmutableLease
  assertCurrent r lease signal
  let answer ← await r r.environment.initializeReadinessObservation
  ofAnswer answer
  assertCurrent r lease signal

/-- `assertRuntimeLeaseCurrent` of the runtime. -/
def assertRuntimeLeaseCurrent (lease : RuntimeLease) : BoundM Unit := do
  let run ← get
  ofAnswer (run.tracker.assertRuntimeLeaseCurrent lease)

/-- `disposeSession`, with the outcome of the close. -/
def disposeSession : BoundM (Except ThrownError Unit) := do
  let run ← get
  setManager .forget
  match run.manager.session with
  | some _ => await r r.environment.close
  | none => await r fun _ => .ok ()

/-- `disconnect` of the base class. -/
def baseDisconnect : BoundM Unit := do
  let outcome ← disposeSession r
  setManager fun manager => { manager with currentState := .DISCONNECTED }
  ofAnswer (outcome.mapError CdpSessionManager.closeError)

/-- The part of `connect` that attaches a new session. -/
def attach (lease : RuntimeLease) (signal : BoundSignal) : BoundM Unit := do
  let targetId ← findPrimaryTarget r signal
  assertRuntimeLeaseCurrent lease
  setManager fun manager => { manager with currentState := .ATTACHING }
  let session ← attachTransport r signal
  rescue (do
    assertRuntimeLeaseCurrent lease
    initializeReadinessObservation r signal
    assertRuntimeLeaseCurrent lease)
    fun error => do
      let _ ← attempt (closeSession r)
      fail (CdpSessionManager.initializeError error)
  setManager fun manager => manager.install lease targetId session

/-- `connect` of the base class. -/
def baseConnect (signal : BoundSignal) : BoundM Unit := do
  let run ← get
  let lease ← ofAnswer run.tracker.getCurrentRuntimeLease
  if run.manager.isConnectedFor lease then pure ()
  else do
    let disposed ← disposeSession r
    match disposed with
    | .error error =>
      setManager fun manager => { manager with currentState := .FAILED }
      fail (CdpSessionManager.replaceError error)
    | .ok _ =>
      setManager fun manager => { manager with currentState := .DISCOVERING }
      rescue (attach r lease signal) fun error => do
        setManager fun manager => { manager with currentState := .FAILED }
        fail (CdpSessionManager.attachError error)

/-- `assertCurrentRuntime`. -/
def assertCurrentRuntime : BoundM Unit := do
  let run ← get
  match run.manager.boundLease, run.manager.session with
  | some boundLease, some _ =>
    if run.manager.currentState ≠ .CONNECTED then fail (.ofCode .cdpDisconnected)
    else assertRuntimeLeaseCurrent boundLease
  | _, _ => fail (.ofCode .cdpDisconnected)

/-- `connect`. -/
def connect (signal : BoundSignal) : BoundM Unit := do
  guardCurrent r signal
  record .connectAdmitted
  rescue (do
    baseConnect r signal
    record .attached
    guardCurrent r signal
    assertCurrentRuntime)
    fun error => do
      let _ ← attempt (baseDisconnect r)
      fail error

/-- `bindExistingRuntime`. -/
def bindExistingRuntime (lease : RuntimeLease) (signal : BoundSignal) : BoundM Unit := do
  throwIfAborted signal
  let run ← get
  match run.immutableLease with
  | none =>
    modify fun run => { run with immutableLease := some lease }
    record (.leaseSet lease)
    runGuard r .BIND lease signal
    throwIfAborted signal
  | some immutableLease =>
    onlyIf (!sameRuntimeLease immutableLease lease) (fail (.ofCode .runtimeGenerationChanged))
  connect r signal

/-! ## Mutations -/

/-- `requireSessionForLease`. -/
def requireSessionForLease (lease : RuntimeLease) : BoundM SessionId := do
  assertRuntimeLeaseCurrent lease
  let run ← get
  match run.manager.boundLease, run.manager.session with
  | some boundLease, some session =>
    if run.manager.currentState ≠ .CONNECTED then fail (.ofCode .cdpDisconnected)
    else do
      onlyIf (!sameRuntimeLease boundLease lease) (fail (.ofCode .runtimeGenerationChanged))
      pure session
  | _, _ => fail (.ofCode .cdpDisconnected)

/-- `assertSessionForLeaseCurrent`. -/
def assertSessionForLeaseCurrent (session : SessionId) (lease : RuntimeLease) : BoundM Unit := do
  assertRuntimeLeaseCurrent lease
  let run ← get
  ofAnswer (run.manager.assertSessionForLease session lease)

/-- `invalidateSessionAfterInFlightAbort`. -/
def invalidateSessionAfterInFlightAbort (session : SessionId) : BoundM Unit := do
  let run ← get
  if run.manager.session ≠ some session then pure ()
  else do
    setManager fun manager => { manager.forget with currentState := .DISCONNECTED }
    let _ ← attempt (closeSession r)
    pure ()

/-- An operation on the session. The abort of a readiness operation's signal while it is pending
takes the session from the manager. -/
def runSessionOperation (mutation : BoundMutation) (session : SessionId) (lease : RuntimeLease)
    (signal : BoundSignal) : BoundM Unit := do
  assertSessionForLeaseCurrent session lease
  throwIfAborted signal
  record (.sessionCalled mutation)
  let answer ← await r r.environment.sessionOperation
  match mutation.kind with
  | .readiness =>
    rescue (throwIfAborted signal) fun error => do
      invalidateSessionAfterInFlightAbort r session
      fail error
  | .turn => pure ()
  ofAnswer answer
  throwIfAborted signal
  assertSessionForLeaseCurrent session lease

/-- The mutations of the base class. -/
def baseMutate (mutation : BoundMutation) (signal : BoundSignal) : BoundM Unit :=
  match mutation.lease? with
  | some lease => do
    let session ← requireSessionForLease lease
    runSessionOperation r mutation session lease signal
  | none => do
    assertCurrentRuntime
    throwIfAborted signal
    record (.sessionCalled mutation)
    let answer ← await r r.environment.sessionOperation
    ofAnswer answer

/-- The mutations. -/
def mutate (mutation : BoundMutation) (signal : BoundSignal) : BoundM Unit := do
  match mutation.lease? with
  | some lease => guardExpectedLease r lease signal
  | none => guardCurrent r signal
  baseMutate r mutation signal

/-! ## Calls, one after the other -/

/-- A call of one of the methods. -/
structure BoundCall where
  method : BoundMethod
  signal : BoundSignal

/-- The body of a call. -/
def call (call : BoundCall) : BoundM Unit :=
  match call.method with
  | .bindExistingRuntime lease => bindExistingRuntime r lease call.signal
  | .connect => connect r call.signal
  | .mutation mutation => mutate r mutation call.signal

/-- Perform a call; the log says how it ended. -/
def perform (boundCall : BoundCall) : BoundM Unit := do
  record (.called boundCall.method)
  let outcome ← attempt (call r boundCall)
  let run ← get
  match outcome with
  | .ok _ => record (.returned boundCall.method run.manager.session)
  | .error _ => record (.rejected boundCall.method run.manager.session)

/-- The manager after these calls, each made when the one before has settled. -/
def performAll : List BoundCall → BoundRun → BoundRun
  | [], run => run
  | boundCall :: calls, run => performAll calls (perform r boundCall run).2

end BoundCdpSessionManager

end Threadwire
