import Mathlib.Data.Finset.Basic
import Threadwire.Controller.ControllerTurnQueue
import Threadwire.Effect.Coroutine
import Threadwire.Project.ProjectRegistry
import Threadwire.Turn.TurnExecutor

/-!
# The controller

`controller/ThreadwireController.ts`: turns, project creations and runtime recoveries go through one
queue, and a turn that has created a conversation in a project holds the next operation up until its
completion is confirmed or rolled back.

The operations are coroutines over the controller's world: its own fields, the two registries, and
what the executor keeps of completions that are pending. The executor itself is the one of
`turn/TurnExecutor.ts`. A turn of it changes the world when it ends; one that hangs has made its
changes too. Before that, others can only look up what it has registered, and such a lookup is an
input of its own. Every other collaborator answers a call with anything, at any time. A race of
`withTimeout` ends by what it waits for, if that has settled, by its deadline at any time, or by the
signal once it is aborted.
-/

namespace Threadwire

/-- `ClassicPolicy`. -/
inductive ClassicPolicy where
  | managed
  | boundExisting
deriving DecidableEq, Repr

/-- The identity of a `TurnResult` of the executor. -/
abbrev ResultId := ℕ

/-- The identity of a `PendingCompletionBarrier`. -/
abbrev BarrierId := ℕ

/-- A call of a collaborator, with its arguments. -/
inductive ControllerCall where
  | ensureStarted
  | requireExisting
  | restart
  | connect
  | disconnect
  | assertCurrentRuntime
  | bindExistingRuntime (lease : RuntimeLease)
  | assertBoundRuntimeCurrent (lease : RuntimeLease)
  | routeFresh
  | routeToThread (threadHandle : ThreadHandle)
  | routeToProject (projectLocator : ProjectLocator)
  | executeStreaming (target : TurnTarget) (prompt : Text)
  | create (name : Text)
deriving DecidableEq, Repr

/-- A turn of the executor: its lease, what it is answered, and how many polls it makes before it
hangs. -/
structure ExecutorAnswer where
  lease : RuntimeLease
  environment : TurnEnvironment
  fuel : ℕ

/-- What a call comes to. -/
def ControllerCall.Answer : ControllerCall → Type
  | .requireExisting => Except ThrownError RuntimeLease
  | .executeStreaming _ _ => ExecutorAnswer
  | .create _ => Except ThrownError ProjectHandle
  | _ => Except ThrownError Unit

/-- What a race of `withTimeout` is about: the microtask that calls the operation, the settlement of
a provisional registration, or a barrier. -/
inductive ControllerPromise where
  | microtask
  | settlement (transaction : ProvisionalThreadRegistrationToken)
  | barrier (barrier : BarrierId)
deriving DecidableEq, Repr

/-- What an operation awaits; `forever` is a turn that hangs. -/
inductive ControllerRequest where
  | race (promise : ControllerPromise) (signal : Option SignalId)
  | admission
  | call (call : ControllerCall)
  | forever
deriving DecidableEq, Repr

/-- What it resumes with. -/
def ControllerRequest.Answer : ControllerRequest → Type
  | .race _ _ => CommandRace Bool
  | .admission => Except ThrownError Unit
  | .call method => method.Answer
  | .forever => Empty

/-- What happens in the controller. `preparing` is a call of `prepareRuntime`, `waiting` the start
of a wait for a barrier and `waited` its end, `returned` a result of the executor, and `marked` a
mark that the scheduler gets. -/
inductive ControllerEvent where
  | preparing (operation : ℕ)
  | called (operation : ℕ) (call : ControllerCall)
  | waiting (operation : ℕ) (barrier : BarrierId)
  | waited (operation : ℕ) (barrier : BarrierId)
  | returned (target : TurnTarget) (result : ResultId) (value : TurnResult) (lease : RuntimeLease)
  | installed (barrier : BarrierId) (result : ResultId)
  | confirmed (result : ResultId)
  | rolledBack (result : ResultId)
  | marked (lease : RuntimeLease)
  | released (barrier : BarrierId) (committed : Bool)
deriving DecidableEq, Repr

/-- What the operations share. `executions` counts the turns of the executor, `results` its results
and `barriers` the barriers; `settled` is what the promises of the barriers are settled to, and
`admittedElsewhere` says that the pending admission is not an operation's. -/
structure ControllerWorld where
  registry : ThreadRegistry := {}
  projectRegistry : ProjectRegistry := {}
  executions : ℕ := 0
  results : ℕ := 0
  pendingProjectCompletions : OrderedMap ResultId PendingProjectCompletion := .empty
  barriers : ℕ := 0
  pendingCompletionBarrier : Option BarrierId := none
  settled : BarrierId → Option Bool := fun _ => none
  pendingCompletionResults : Finset ResultId := ∅
  boundRuntimeLease : Option RuntimeLease := none
  boundAdmission : Option (Option (Except ThrownError Unit)) := none
  admittedElsewhere : Bool := false
  aborted : SignalId → Bool := fun _ => false
  log : List ControllerEvent := []

/-- The options, the platform, which optional methods the collaborators have, the identifiers that
`randomUUID` answers with, by turn, question and attempt, and the reasons of the signals. -/
structure ControllerSettings where
  classicPolicy : ClassicPolicy := .managed
  maxOutstandingTurns : ℕ := 8
  platform : Whatwg.UrlPlatform
  randomUUID : ℕ → ℕ → ThreadHandleFactory
  executorOptions : TurnExecutorOptions := {}
  port : TurnCdpPort := {}
  restart : Bool := true
  requireExisting : Bool := true
  bindExistingRuntime : Bool := true
  assertBoundRuntimeCurrent : Bool := true
  abortReason : SignalId → Option ThrownError := fun _ => none

/-- What an operation resolves to. -/
inductive ControllerReturn where
  | turn (result : ResultId) (value : TurnResult)
  | project (projectHandle : ProjectHandle)
  | recovered
deriving DecidableEq, Repr

/-- An operation of the queue, with what it closes over. -/
inductive ControllerOperation where
  | executeTurn (target : TurnTarget) (registrationState : Option ThreadRegistrationState)
      (prompt : Text)
  | createProject (name : Text)
  | recoverRuntime
deriving DecidableEq, Repr

/-- A piece of an operation. -/
abbrev ControllerM :=
  Coroutine ControllerWorld ControllerRequest ControllerRequest.Answer ThrownError

namespace ControllerWorld

/-- Append to the log. -/
def record (w : ControllerWorld) (event : ControllerEvent) : ControllerWorld :=
  { w with log := w.log ++ [event] }

/-- `signal?.aborted`. -/
def isAborted (w : ControllerWorld) (signal : Option SignalId) : Bool := signal.any w.aborted

/-- What a promise is settled to. -/
def settlement (w : ControllerWorld) : ControllerPromise → Option Bool
  | .microtask => some true
  | .settlement transaction => w.registry.settlements.lookup transaction
  | .barrier barrier => w.settled barrier

/-! ## Completions -/

/-- `executor.confirmCompletedTurn`. -/
def confirmCompletedTurn (w : ControllerWorld) (result : ResultId) : ControllerWorld :=
  match w.pendingProjectCompletions.get? result with
  | none => w
  | some pending =>
    { w with
      pendingProjectCompletions := w.pendingProjectCompletions.delete result
      registry := (ThreadRegistry.commitProvisional pending.transaction w.registry).2 }

/-- `executor.rollbackCompletedTurn`. -/
def rollbackCompletedTurn (w : ControllerWorld) (result : ResultId) : ControllerWorld :=
  match w.pendingProjectCompletions.get? result with
  | none => w
  | some pending =>
    let w := { w with
      pendingProjectCompletions := w.pendingProjectCompletions.delete result }
    match ThreadRegistry.rollbackProvisional pending.transaction w.registry with
    | (.ok true, registry) => record { w with registry } (.marked pending.lease)
    | (_, registry) => { w with registry }

/-- `installCompletionBarrier`. -/
def installCompletionBarrier (w : ControllerWorld) (result : ResultId) : ControllerWorld :=
  { w with
    barriers := w.barriers + 1
    pendingCompletionBarrier := some w.barriers
    pendingCompletionResults := insert result w.pendingCompletionResults
    log := w.log ++ [.installed w.barriers result] }

/-- `settleCompletionBarrier`. -/
def settleCompletionBarrier (w : ControllerWorld) (result : ResultId) (committed : Bool) :
    ControllerWorld :=
  if result ∈ w.pendingCompletionResults then
    let w := { w with pendingCompletionResults := w.pendingCompletionResults.erase result }
    match w.pendingCompletionBarrier with
    | none => w
    | some barrier =>
      { w with
        pendingCompletionBarrier := none
        settled := Function.update w.settled barrier (some committed)
        log := w.log ++ [.released barrier committed] }
  else w

/-- `confirmTurnCompletion`. -/
def confirmTurnCompletion (w : ControllerWorld) (result : ResultId) : ControllerWorld :=
  ((w.record (.confirmed result)).confirmCompletedTurn result).settleCompletionBarrier result true

/-- `rollbackTurnCompletion`. -/
def rollbackTurnCompletion (w : ControllerWorld) (result : ResultId) : ControllerWorld :=
  ((w.record (.rolledBack result)).rollbackCompletedTurn result).settleCompletionBarrier result
    false

/-! ## The executor -/

/-- The call of the executor. -/
def turnCall (w : ControllerWorld) (settings : ControllerSettings) (target : TurnTarget)
    (prompt : Text) (answer : ExecutorAnswer) : TurnCall where
  options := settings.executorOptions
  port := settings.port
  environment :=
    { answer.environment with handleFactory := settings.randomUUID w.executions }
  parseUrl := urlParser settings.platform
  target := target
  text := prompt
  lease := answer.lease
  listening := true

/-- `executor.executeStreaming`, from its call to its end. -/
def execute (w : ControllerWorld) (settings : ControllerSettings) (target : TurnTarget)
    (prompt : Text) (answer : ExecutorAnswer) :
    Except (Interrupt ThrownError) (ResultId × TurnResult) × ControllerWorld :=
  let (outcome, run) := TurnExecutor.executeStreaming (w.turnCall settings target prompt answer)
    answer.fuel { registry := w.registry }
  let w := { w with registry := run.registry, executions := w.executions + 1 }
  match outcome with
  | .error interrupt => (.error interrupt, w)
  | .ok value =>
    (.ok (w.results, value), { w with
      results := w.results + 1
      pendingProjectCompletions :=
        match run.pendingProjectCompletion with
        | none => w.pendingProjectCompletions
        | some pending => w.pendingProjectCompletions.set w.results pending
      log := w.log ++ [.returned target w.results value answer.lease] })

end ControllerWorld

namespace ThreadwireController

open Coroutine

/-! ## Pieces of the operations -/

/-- Append to the log. -/
def record (event : ControllerEvent) : ControllerM Unit := modify (·.record event)

/-- Call a collaborator, and await the answer. -/
def call (operation : ℕ) (method : ControllerCall) : ControllerM method.Answer := do
  record (.called operation method)
  ask (ControllerRequest.call method)

/-- The race of `withTimeout`. -/
def race (promise : ControllerPromise) (signal : Option SignalId) :
    ControllerM (CommandRace Bool) :=
  ask (ControllerRequest.race promise signal)

variable (settings : ControllerSettings)

/-- `throwIfAborted(signal)`. -/
def throwIfAborted (signal : Option SignalId) : ControllerM Unit := do
  let world ← get
  onlyIf (world.isAborted signal) (throw (abortedError (signal.bind settings.abortReason)))

/-- `withTimeout` goes on after its race. -/
def afterRace (signal : Option SignalId) (message : String) : CommandRace Bool → ControllerM Bool
  | .settled outcome => settle outcome
  | .timedOut => throw (.ofCodeMessage .operationTimeout message)
  | .cancelled =>
    throw ((ThrownError.ofCode .operationAborted).withCause (signal.bind settings.abortReason))

/-- `registry.waitForCommit` under `withTimeout`. -/
def waitForCommit (signal : Option SignalId) (threadHandle : ThreadHandle) : ControllerM Unit := do
  let message := "Timed out waiting for provisional Thread registration."
  throwIfAborted settings signal
  let called ← race .microtask signal
  let _ ← afterRace settings signal message called
  let world ← get
  match world.registry.registrationState threadHandle with
  | .error error => throw error
  | .ok .committed => pure ()
  | .ok .provisional =>
    match world.registry.provisionalHandleToEntry.get? threadHandle with
    | none => throw (.ofCode .threadNotFound)
    | some entry =>
      let raced ← race (.settlement entry.transaction) signal
      let committed ← afterRace settings signal message raced
      onlyIf (!committed) (throw (.ofCode .threadNotFound))

/-- `awaitPendingCompletion`. -/
def awaitPendingCompletion (operation : ℕ) (signal : Option SignalId) : ControllerM Unit := do
  let world ← get
  match world.pendingCompletionBarrier with
  | none => pure ()
  | some barrier =>
    throwIfAborted settings signal
    record (.waiting operation barrier)
    let raced ← race (.barrier barrier) signal
    record (.waited operation barrier)
    let committed ← afterRace settings signal
      "Timed out waiting for Project public-completion settlement." raced
    onlyIf (!committed) (throw (.ofCodeMessage .turnStateUncertain
      "A prior Project public-completion transaction was rolled back."))

/-- `admitBoundRuntime`. -/
def admitBoundRuntime (operation : ℕ) : ControllerM Unit :=
  if !settings.requireExisting || !settings.bindExistingRuntime ||
      !settings.assertBoundRuntimeCurrent then
    throw (.ofCode .runtimeProvenanceUnverified)
  else do
    let lease ← settle (← call operation .requireExisting)
    modify fun world => { world with boundRuntimeLease := some lease }
    settle (← call operation (.bindExistingRuntime lease))
    settle (← call operation (.assertBoundRuntimeCurrent lease))

/-- The admission that another call began. -/
def admission : ControllerM Unit := do
  let outcome : Except ThrownError Unit ← ask ControllerRequest.admission
  settle outcome

/-- `initialize`. Where there is no admission yet, the operation runs it and awaits it. -/
def initializeController (operation : ℕ) : ControllerM Unit :=
  match settings.classicPolicy with
  | .managed => pure ()
  | .boundExisting => do
    let world ← get
    match world.boundAdmission with
    | some _ => admission
    | none =>
      modify fun world => { world with boundAdmission := some none }
      let outcome ← attempt (admitBoundRuntime settings operation)
      modify fun world => { world with boundAdmission := some (some outcome) }
      settle outcome

/-- `assertBoundRuntimeCurrent`. -/
def assertBoundRuntimeCurrent (operation : ℕ) : ControllerM Unit :=
  match settings.classicPolicy with
  | .managed => pure ()
  | .boundExisting => do
    let world ← get
    match world.boundRuntimeLease, settings.assertBoundRuntimeCurrent with
    | some lease, true => settle (← call operation (.assertBoundRuntimeCurrent lease))
    | _, _ => throw (.ofCode .runtimeRequiredExisting)

/-- `prepareRuntime`. -/
def prepareRuntime (operation : ℕ) : ControllerM Unit := do
  record (.preparing operation)
  match settings.classicPolicy with
  | .managed =>
    let _ ← settle (← call operation .ensureStarted)
    settle (← call operation .connect)
    settle (← call operation .assertCurrentRuntime)
  | .boundExisting =>
    initializeController settings operation
    settle (← call operation .connect)
    assertBoundRuntimeCurrent settings operation

/-! ## The operations -/

/-- Where the thread was registered provisionally at the call, its registration is awaited. -/
def awaitRegistration (signal : Option SignalId) (target : TurnTarget)
    (registrationState : Option ThreadRegistrationState) : ControllerM Unit :=
  match target, registrationState with
  | .thread threadHandle, some .provisional => waitForCommit settings signal threadHandle
  | _, _ => pure ()

/-- The route to the target. -/
def route (operation : ℕ) : TurnTarget → ControllerM Unit
  | .fresh => do settle (← call operation .routeFresh)
  | .thread threadHandle => do settle (← call operation (.routeToThread threadHandle))
  | .project projectLocator => do settle (← call operation (.routeToProject projectLocator))

/-- `executor.executeStreaming`. -/
def executeStreaming (operation : ℕ) (target : TurnTarget) (prompt : Text) :
    ControllerM (ResultId × TurnResult) := do
  let answer ← call operation (.executeStreaming target prompt)
  let outcome ← modifyGet fun world => world.execute settings target prompt answer
  match outcome with
  | .ok result => pure result
  | .error (.thrown error) => throw error
  | .error .pending =>
    let never : Empty ← ask ControllerRequest.forever
    nomatch never

/-- Whether the target is a project. -/
def isProject : TurnTarget → Bool
  | .project _ => true
  | _ => false

/-- The operation of `executeTurn`. -/
def executeTurn (operation : ℕ) (signal : Option SignalId) (target : TurnTarget)
    (registrationState : Option ThreadRegistrationState) (prompt : Text) :
    ControllerM ControllerReturn := do
  awaitRegistration settings signal target registrationState
  awaitPendingCompletion settings operation signal
  prepareRuntime settings operation
  route operation target
  assertBoundRuntimeCurrent settings operation
  let (result, value) ← executeStreaming settings operation target prompt
  onlyIf (isProject target && value.created) (modify (·.installCompletionBarrier result))
  pure (.turn result value)

/-- The operation of `createProject`. -/
def createProject (operation : ℕ) (signal : Option SignalId) (name : Text) :
    ControllerM ControllerReturn := do
  awaitPendingCompletion settings operation signal
  prepareRuntime settings operation
  assertBoundRuntimeCurrent settings operation
  let projectHandle ← settle (← call operation (.create name))
  pure (.project projectHandle)

/-- The operation of `recoverRuntime`. -/
def recoverRuntime (operation : ℕ) (signal : Option SignalId) : ControllerM ControllerReturn := do
  awaitPendingCompletion settings operation signal
  throwIfAborted settings signal
  if settings.classicPolicy = .boundExisting then throw (.ofCode .runtimeRecoveryForbidden)
  else if !settings.restart then throw (.plain "Runtime recovery is unavailable.")
  else
    let _ ← settle (← call operation .disconnect)
    let _ ← settle (← call operation .restart)
    let _ ← settle (← call operation .connect)
    let _ ← settle (← call operation .assertCurrentRuntime)
    pure .recovered

/-- What an entry of the queue runs. -/
def body (operation : ℕ) (signal : Option SignalId) :
    ControllerOperation → ControllerM ControllerReturn
  | .executeTurn target registrationState prompt =>
    executeTurn settings operation signal target registrationState prompt
  | .createProject name => createProject settings operation signal name
  | .recoverRuntime => recoverRuntime settings operation signal

end ThreadwireController

/-! ## The system -/

/-- What ends a race. -/
inductive RaceEnd where
  | settled
  | timedOut
  | cancelled
deriving DecidableEq, Repr

/-- What the environment does. `executeTurnDuring` is a call of `executeTurn` for a thread that a
turn which is being executed has registered; `initializeController` is a call of `initialize` or
`health`, which are not queued, and `initialized` the end of the admission that it began; `register`
is a registration by the project creator. -/
inductive ControllerInput where
  | executeTurn (request : ControllerTurnRequest) (signal : Option SignalId)
  | executeTurnDuring (threadHandle : ThreadHandle) (registrationState : ThreadRegistrationState)
      (prompt : Text) (signal : Option SignalId)
  | createProject (name : Text) (signal : Option SignalId)
  | recoverRuntime (signal : Option SignalId)
  | confirmTurnCompletion (result : ResultId)
  | rollbackTurnCompletion (result : ResultId)
  | initializeController
  | initialized (lease : Option RuntimeLease) (outcome : Except ThrownError Unit)
  | register (value : String) (handleFactory : ThreadHandleFactory)
  | abort (signal : SignalId)
  | onAbort (operation : ℕ)
  | drain
  | invoke (chain : ℕ)
  | resume (operation : ℕ) (raceEnd : RaceEnd) (answers : ∀ call : ControllerCall, call.Answer)
  | complete (chain : ℕ)
  | settle (chain : ℕ)
  | finish (chain : ℕ)

/-- A `ThreadwireController`: its queue, the world, and the operations of the entries with how far
those are that were invoked. -/
structure ControllerSystem where
  queue : ControllerTurnQueue ControllerReturn
  world : ControllerWorld := {}
  operations : ℕ → ControllerOperation := fun _ => .recoverRuntime
  bodies : ℕ → Option (ControllerM ControllerReturn) := fun _ => none

/-- The answer of a request, if there is one. -/
def ControllerWorld.answer (w : ControllerWorld) (raceEnd : RaceEnd)
    (answers : ∀ call : ControllerCall, call.Answer) :
    (request : ControllerRequest) → Option request.Answer
  | .race promise signal =>
    match raceEnd with
    | .settled => (w.settlement promise).map fun value => .settled (.ok value)
    | .timedOut => some .timedOut
    | .cancelled => if w.isAborted signal then some .cancelled else none
  | .admission => w.boundAdmission.join
  | .call call => some (answers call)
  | .forever => none

namespace ControllerSystem

open ThreadwireController

variable (settings : ControllerSettings)

/-- A new controller. -/
def initial : ControllerSystem :=
  { queue := { maxOutstandingTurns := settings.maxOutstandingTurns } }

/-- What `executeTurn` looks up before it schedules. -/
def resolveTarget (w : ControllerWorld) :
    ControllerTurnTarget → Except ThrownError (TurnTarget × Option ThreadRegistrationState)
  | .thread threadHandle => do
    let registrationState ← w.registry.registrationState threadHandle
    pure (.thread threadHandle, some registrationState)
  | .fresh => pure (.fresh, none)
  | .project projectHandle => do
    let projectLocator ← w.projectRegistry.resolve projectHandle
    pure (.project projectLocator, none)

/-- `turnQueue.schedule`. -/
def schedule (s : ControllerSystem) (operation : ControllerOperation)
    (signal : Option SignalId) : ControllerSystem :=
  { s with
    queue := s.queue.schedule signal
    operations := Function.update s.operations s.queue.promises operation }

/-- A turn of the executor is being executed. -/
def isExecuting (s : ControllerSystem) : Bool :=
  s.queue.chains.any fun chain =>
    match s.bodies chain.1 with
    | some (.await (.call (.executeStreaming _ _)) _) => true
    | _ => false

/-- A step of the queue. -/
def stepQueue (s : ControllerSystem) (input : TurnQueueInput ControllerReturn) :
    Option ControllerSystem :=
  (s.queue.step input).map fun queue => { s with queue }

/-- An operation acts until its next request. -/
def advance (s : ControllerSystem) (operation : ℕ) (x : ControllerM ControllerReturn) :
    ControllerSystem :=
  { s with
    world := (x.advance s.world).2
    bodies := Function.update s.bodies operation (some (x.advance s.world).1) }

/-- One step of the system; `none` where the input cannot occur. -/
def step (s : ControllerSystem) : ControllerInput → Option ControllerSystem
  | .executeTurn request signal =>
    match resolveTarget s.world request.target with
    | .error _ => some s
    | .ok (target, registrationState) =>
      some (s.schedule (.executeTurn target registrationState request.prompt) signal)
  | .executeTurnDuring threadHandle registrationState prompt signal =>
    if s.isExecuting then
      some (s.schedule (.executeTurn (.thread threadHandle) (some registrationState) prompt) signal)
    else none
  | .createProject name signal => some (s.schedule (.createProject name) signal)
  | .recoverRuntime signal => some (s.schedule .recoverRuntime signal)
  | .confirmTurnCompletion result =>
    if result < s.world.results then
      some { s with world := s.world.confirmTurnCompletion result }
    else none
  | .rollbackTurnCompletion result =>
    if result < s.world.results then
      some { s with world := s.world.rollbackTurnCompletion result }
    else none
  | .initializeController =>
    if settings.classicPolicy = .boundExisting ∧ s.world.boundAdmission = none then
      some { s with
        world := { s.world with boundAdmission := some none, admittedElsewhere := true } }
    else some s
  | .initialized lease outcome =>
    if s.world.admittedElsewhere then
      some { s with world := { s.world with
        boundRuntimeLease := lease
        boundAdmission := some (some outcome)
        admittedElsewhere := false } }
    else none
  | .register value handleFactory =>
    match s.world.projectRegistry.register settings.platform handleFactory value with
    | .error _ => some s
    | .ok (_, projectRegistry) => some { s with world := { s.world with projectRegistry } }
  | .abort signal =>
    (s.stepQueue (.abort signal)).map fun s =>
      { s with world := { s.world with aborted := Function.update s.world.aborted signal true } }
  | .onAbort operation => s.stepQueue (.onAbort operation)
  | .drain => s.stepQueue .drain
  | .invoke chain =>
    match s.queue.chains[chain]? with
    | none => none
    | some (operation, _) =>
      (s.stepQueue (.invoke chain)).map fun s =>
        let signal := (s.queue.entries operation).signal
        s.advance operation (body settings operation signal (s.operations operation))
  | .resume operation raceEnd answers =>
    match s.bodies operation with
    | some (.await request resume) =>
      (s.world.answer raceEnd answers request).map fun answer =>
        s.advance operation (resume answer)
    | _ => none
  | .complete chain =>
    match s.queue.chains[chain]? with
    | none => none
    | some (operation, _) =>
      match s.bodies operation with
      | some (.done outcome) => s.stepQueue (.complete chain outcome)
      | _ => none
  | .settle chain => s.stepQueue (.settle chain)
  | .finish chain => s.stepQueue (.finish chain)

end ControllerSystem

end Threadwire
