import Mathlib.Logic.Function.Basic
import Threadwire.Effect.Coroutine
import Threadwire.Routing.OperationScheduler
import Threadwire.Runtime.ClassicSupervisor

/-!
# The lifecycle operations of the Classic process

`ensureStarted`, `requireExisting`, `stop` and `restart` of `runtime/ClassicSupervisor.ts`, with
`runLifecycle`, which runs their bodies one after another while their callers can be rejected early.

A body is a coroutine. What it awaits is answered with any processes, succeeds or fails; inside a
`withTimeout` an answer may also be that the wait was given up. Calls that are not lifecycle
operations, and waits that were given up but still had a query on the way, do no more than move the
tracker, which the environment may do at any time. The loops are given fuel, and never go on
without it.
-/

namespace Threadwire

/-! ## The world of the bodies -/

/-- The lifecycle operations. -/
inductive LifecycleMethod where
  | ensureStarted
  | requireExisting
  | stop
  | restart
deriving DecidableEq, Repr

/-- What they resolve with. -/
inductive LifecycleResult where
  | generation (generation : ℕ)
  | lease (lease : RuntimeLease)
  | undefined
deriving DecidableEq, Repr

/-- What happens, in order. An operation is named by the number of calls scheduled before it; an
observation is logged when its answer is seen, and a command when it is dispatched. -/
inductive LifecycleEntry where
  | called (operation : ℕ) (method : LifecycleMethod)
  | refused (method : LifecycleMethod)
  | aborted (signal : SignalId)
  | started (operation : ℕ) (method : LifecycleMethod)
  | captured (operation : ℕ) (processes : List ClassicProcessInfo)
  | killed (operation : ℕ) (identities : List RuntimeIdentity)
  | polled (operation : ℕ) (remaining : List ClassicProcessInfo)
  | launchPhase (operation : ℕ) (generationBeforeLaunch : ℕ)
  | installed (operation : ℕ) (executablePath : String)
  | checked (operation : ℕ) (processesBeforeLaunch : List ClassicProcessInfo)
  | launched (operation : ℕ) (executablePath : String)
  | bodySettled (operation : ℕ) (outcome : Except ThrownError LifecycleResult)
  | callerSettled (operation : ℕ) (outcome : Except ThrownError LifecycleResult)
deriving DecidableEq, Repr

/-- The fields of the supervisor, the aborted signals, and the log. -/
structure LifecycleWorld extends ClassicSupervisor where
  aborted : SignalId → Option (Option ThrownError) := fun _ => none
  log : List LifecycleEntry := []

/-- The commands that the runner is given: the stop command with the identities in its environment,
the launch of an executable. -/
inductive ClassicCommand where
  | stop (identities : List RuntimeIdentity)
  | launch (executablePath : String)
deriving DecidableEq, Repr

/-- The entry of a command. -/
def ClassicCommand.entry (operation : ℕ) : ClassicCommand → LifecycleEntry
  | .stop identities => .killed operation identities
  | .launch executablePath => .launched operation executablePath

/-- What a body awaits. `turn` is the time that settled promises take; `never` is not answered. -/
inductive LifecycleRequest where
  | getClassicProcesses
  | run (command : ClassicCommand)
  | resolve
  | delay
  | turn
  | never
deriving DecidableEq, Repr

/-- The answers. -/
abbrev LifecycleRequest.Answer : LifecycleRequest → Type
  | .getClassicProcesses => Except ThrownError (List ClassicProcessInfo)
  | .run _ | .delay => Except ThrownError Unit
  | .resolve => Except ThrownError String
  | .turn => Unit
  | .never => Empty

/-- A piece of a body. -/
abbrev LifecycleM :=
  Coroutine LifecycleWorld LifecycleRequest LifecycleRequest.Answer ThrownError

namespace ClassicLifecycle

open Coroutine

variable {α : Type}

/-- Append to the log. -/
def record (entry : LifecycleEntry) : LifecycleM Unit :=
  modify fun world => { world with log := world.log ++ [entry] }

/-- `tracker.observe`, with the generation that it returns. -/
def observe (identity : Option RuntimeIdentity) : LifecycleM ℕ := do
  modify fun world => { world with tracker := world.tracker.observe identity }
  let world ← get
  pure world.tracker.generation

/-- `throwIfAborted`. -/
def throwIfAborted (signal : Option SignalId) : LifecycleM Unit := do
  let world ← get
  match signal.bind world.aborted with
  | some reason => throw (abortedError reason)
  | none => pure ()

/-- `inspector.getClassicProcesses`. -/
def getClassicProcesses : LifecycleM (List ClassicProcessInfo) := do
  let outcome ← ask .getClassicProcesses
  settle outcome

/-- `inspector.getClassicProcesses`, with an entry for what it saw. -/
def observeProcesses (entry : List ClassicProcessInfo → LifecycleEntry) :
    LifecycleM (List ClassicProcessInfo) := do
  let processes ← getClassicProcesses
  record (entry processes)
  pure processes

/-- `packageResolver.resolve`, with an entry for the path. -/
def resolveInstallation (operation : ℕ) : LifecycleM String := do
  let resolved ← ask .resolve
  let executablePath ← settle resolved
  record (.installed operation executablePath)
  pure executablePath

/-- `runner.run`, with the entry of the command. -/
def runCommand (operation : ℕ) (command : ClassicCommand) : LifecycleM Unit := do
  record (command.entry operation)
  let outcome ← ask (.run command)
  settle outcome

/-- `delay` with the poll interval. -/
def delay : LifecycleM Unit := do
  let outcome ← ask .delay
  settle outcome

/-- `withTimeout`; that it gives up is a failure of what the operation awaits. -/
def withTimeout (signal : Option SignalId) (operation : LifecycleM α) : LifecycleM α := do
  throwIfAborted signal
  let _ ← ask .turn
  let value ← operation
  let _ ← ask .turn
  pure value

/-- A loop out of fuel. -/
def outOfFuel : LifecycleM α := do
  let stuck ← ask .never
  nomatch stuck

variable (operation : ℕ) (signal : Option SignalId)

/-! ## Observing -/

/-- `inspect`. -/
def inspect : LifecycleM ClassicRuntimeSnapshot := do
  let processes ← getClassicProcesses
  let mainProcess ← settle (selectUniqueMainProcess processes)
  let world ← get
  let generation ← (if world.stopInProgress then pure world.tracker.generation
    else observe (mainProcess.map runtimeIdentity))
  pure
    { isRunning := mainProcess.isSome
      pid := mainProcess.map fun process => process.pid
      generation
      mainProcess := mainProcess.map processObservation
      processes := processes.map processObservation }

/-- The body of `requireExisting`. -/
def requireExisting : LifecycleM LifecycleResult := do
  throwIfAborted signal
  let processes ← getClassicProcesses
  let mainProcess ← settle (selectUniqueMainProcess processes)
  match mainProcess with
  | none => do
    let _ ← observe none
    throw (.ofCode .runtimeRequiredExisting)
  | some process => do
    let _ ← observe (some (runtimeIdentity process))
    let world ← get
    let lease ← settle world.tracker.getCurrentRuntimeLease
    pure (.lease lease)

/-! ## Stopping -/

/-- The stop command of `stopCapturedProcesses`. Only an abort is thrown on; another error is kept
for later. -/
def runStopCommand (previousIdentities : List RuntimeIdentity) :
    LifecycleM (Option ThrownError) := do
  let outcome ← attempt (withTimeout signal (runCommand operation (.stop previousIdentities)))
  match outcome with
  | .ok _ => pure none
  | .error error =>
    if error.isInstance .operationAborted then throw error
    else pure (some error)

/-- The loop of `stopCapturedProcesses` that waits for the exit. -/
def awaitExit (previousIdentities : List RuntimeIdentity) : ℕ → ℕ → LifecycleM Unit
  | 0, _ => outOfFuel
  | fuel + 1, quiescentObservations => do
    let remaining ← observeProcesses (.polled operation)
    let unexpectedProcessPresent := remaining.any fun process =>
      !previousIdentities.any fun identity => processMatchesIdentity process identity
    if unexpectedProcessPresent then do
      let _ ← observe none
      throw (.ofCodeMessage .classicStopFailed
        "A different ChatGPT Classic runtime appeared while stopping the previous runtime.")
    else do
      let previousStillPresent := previousIdentities.any fun identity =>
        remaining.any fun process => processMatchesIdentity process identity
      if previousStillPresent then do
        delay
        awaitExit previousIdentities fuel 0
      else if REQUIRED_STOP_QUIESCENT_OBSERVATIONS ≤ quiescentObservations + 1 then do
        let _ ← observe none
        pure ()
      else do
        delay
        awaitExit previousIdentities fuel (quiescentObservations + 1)

/-- Show the main process to the tracker, if there is one. -/
def observeMain : Option ClassicProcessInfo → LifecycleM Unit
  | some process => do
    let _ ← observe (some (runtimeIdentity process))
    pure ()
  | none => pure ()

/-- `stopCapturedProcesses`. -/
def stopCapturedProcesses (fuel : ℕ) : LifecycleM Unit := do
  let processes ← observeProcesses (.captured operation)
  let mainProcess ← settle (selectUniqueMainProcess processes)
  observeMain mainProcess
  if processes.length = 0 then do
    let _ ← observe none
    pure ()
  else do
    let _ ← observe none
    let previousIdentities := processes.map runtimeIdentity
    let stopCommandError ← runStopCommand operation signal previousIdentities
    handle (withTimeout signal (awaitExit operation previousIdentities fuel 0)) fun error =>
      throw (SupervisorSystem.exitError stopCommandError error)

/-- `stopExclusive`. -/
def stopExclusive (fuel : ℕ) : LifecycleM Unit := do
  throwIfAborted signal
  modify fun world => { world with stopInProgress := true }
  let outcome ← attempt (stopCapturedProcesses operation signal fuel)
  let _ ← ask .turn
  modify fun world => { world with stopInProgress := false }
  settle outcome

/-! ## Starting -/

/-- The launch command of `startNewGeneration`. -/
def launch (executablePath : String) : LifecycleM Unit := do
  handle (runCommand operation (.launch executablePath)) fun error =>
    if error.isInstance .operationAborted then throw error
    else throw ((ThrownError.ofCode .classicStartFailed).withCause (some error))

/-- The loop of `startNewGeneration` that waits for the new process. -/
def awaitNewProcess (generationBeforeLaunch : ℕ) : ℕ → LifecycleM ℕ
  | 0 => outOfFuel
  | fuel + 1 => do
    let processes ← getClassicProcesses
    let mainProcess ← settle (selectUniqueMainProcess processes)
    match mainProcess with
    | none => do
      delay
      awaitNewProcess generationBeforeLaunch fuel
    | some process => do
      let generation ← observe (some (runtimeIdentity process))
      if generationBeforeLaunch < generation then pure generation
      else do
        delay
        awaitNewProcess generationBeforeLaunch fuel

/-- `startNewGeneration`. What `buildClassicLaunchInvocation` refuses is a parameter. -/
def startNewGeneration (buildClassicLaunchInvocation : String → Except ThrownError Unit)
    (fuel : ℕ) : LifecycleM ℕ := do
  let world ← get
  let generationBeforeLaunch := world.tracker.generation
  record (.launchPhase operation generationBeforeLaunch)
  let executablePath ← resolveInstallation operation
  settle (buildClassicLaunchInvocation executablePath)
  let processesBeforeLaunch ← observeProcesses (.checked operation)
  if processesBeforeLaunch.length ≠ 0 then do
    let _ ← observe none
    throw (.ofCodeMessage .classicStartFailed
      "A ChatGPT Classic runtime appeared before the controlled launch began.")
  else do
    launch operation executablePath
    handle (withTimeout signal (awaitNewProcess generationBeforeLaunch fuel)) fun error =>
      throw (SupervisorSystem.startError error)

/-! ## The bodies -/

/-- The body of `ensureStarted`. -/
def ensureStarted (buildClassicLaunchInvocation : String → Except ThrownError Unit) (fuel : ℕ) :
    LifecycleM LifecycleResult := do
  throwIfAborted signal
  let snapshot ← inspect
  let _ ← ask .turn
  if snapshot.isRunning then pure (.generation snapshot.generation)
  else do
    let generation ← startNewGeneration operation signal buildClassicLaunchInvocation fuel
    pure (.generation generation)

/-- The body of `restart`. -/
def restart (buildClassicLaunchInvocation : String → Except ThrownError Unit) (fuel : ℕ) :
    LifecycleM LifecycleResult := do
  throwIfAborted signal
  stopExclusive operation signal fuel
  let _ ← ask .turn
  let generation ← startNewGeneration operation signal buildClassicLaunchInvocation fuel
  pure (.generation generation)

/-- The body of an operation. -/
def perform (buildClassicLaunchInvocation : String → Except ThrownError Unit) (fuel : ℕ) :
    LifecycleMethod → LifecycleM LifecycleResult
  | .ensureStarted => ensureStarted operation signal buildClassicLaunchInvocation fuel
  | .requireExisting => requireExisting signal
  | .stop => do
    stopExclusive operation signal fuel
    pure .undefined
  | .restart => restart operation signal buildClassicLaunchInvocation fuel

/-- A body from its start until its promise settles. -/
def body (buildClassicLaunchInvocation : String → Except ThrownError Unit) (fuel : ℕ)
    (method : LifecycleMethod) : LifecycleM LifecycleResult := do
  record (.started operation method)
  let outcome ← attempt (perform operation signal buildClassicLaunchInvocation fuel method)
  record (.bodySettled operation outcome)
  settle outcome

end ClassicLifecycle

/-! ## The lifecycle queue -/

/-- A call that `runLifecycle` has scheduled. -/
structure LifecycleCall where
  method : LifecycleMethod
  signal : Option SignalId
deriving DecidableEq, Repr

/-- The bodies that have started. -/
abbrev LifecyclePool :=
  Pool LifecycleWorld LifecycleRequest LifecycleRequest.Answer ThrownError LifecycleResult

/-- The bodies that have started, which are the first of the calls, the number of calls whose tail
promise has resolved, and whose callers' promises have settled. -/
structure LifecycleQueue where
  pool : LifecyclePool
  calls : List LifecycleCall := []
  released : ℕ := 0
  settledCallers : List ℕ := []

/-- What the environment does. `start` is the reaction to the tail promise, and `release` that to
the body promise; a caller's promise takes over the outcome of the body, or an abort. -/
inductive LifecycleInput where
  | call (method : LifecycleMethod) (signal : Option SignalId)
  | start
  | answer (operation : ℕ) (answers : ∀ request : LifecycleRequest, Option request.Answer)
  | release
  | settleCaller (operation : ℕ)
  | rejectCaller (operation : ℕ)
  | abort (signal : SignalId) (reason : Option ThrownError)
  | observe (identity : Option RuntimeIdentity)

namespace LifecycleQueue

/-- Append to the log. -/
def record (q : LifecycleQueue) (entry : LifecycleEntry) : LifecycleQueue :=
  { q with pool := q.pool.move fun world => { world with log := world.log ++ [entry] } }

/-- Settle the promise of a caller. -/
def settleCaller (q : LifecycleQueue) (operation : ℕ)
    (outcome : Except ThrownError LifecycleResult) : LifecycleQueue :=
  { q.record (.callerSettled operation outcome) with
    settledCallers := q.settledCallers ++ [operation] }

/-- `runLifecycle`. -/
def runLifecycle (q : LifecycleQueue) (method : LifecycleMethod) (signal : Option SignalId) :
    LifecycleQueue :=
  match signal.bind q.pool.state.aborted with
  | some _ => q.record (.refused method)
  | none =>
    { q.record (.called q.calls.length method) with calls := q.calls ++ [⟨method, signal⟩] }

/-- One step; `none` where the input cannot occur. -/
def step (buildClassicLaunchInvocation : String → Except ThrownError Unit) (fuel : ℕ)
    (q : LifecycleQueue) : LifecycleInput → Option LifecycleQueue
  | .call method signal => some (q.runLifecycle method signal)
  | .start =>
    match q.calls[q.released]? with
    | some call =>
      if q.pool.running.length = q.released then
        some { q with
          pool := q.pool.start (ClassicLifecycle.body q.released call.signal
            buildClassicLaunchInvocation fuel call.method) }
      else none
    | none => none
  | .answer operation answers => some { q with pool := q.pool.resume operation answers }
  | .release =>
    match q.pool.running[q.released]? with
    | some (.done _) => some { q with released := q.released + 1 }
    | _ => none
  | .settleCaller operation =>
    match q.pool.running[operation]? with
    | some (.done outcome) =>
      if operation ∈ q.settledCallers then none else some (q.settleCaller operation outcome)
    | _ => none
  | .rejectCaller operation =>
    match q.calls[operation]? with
    | some call =>
      match call.signal.bind q.pool.state.aborted with
      | some reason =>
        if operation ∈ q.settledCallers then none
        else some (q.settleCaller operation (.error (abortedError reason)))
      | none => none
    | none => none
  | .abort signal reason =>
    if q.pool.state.aborted signal = none then
      some { q with
        pool := q.pool.move fun world =>
          { world with
            aborted := Function.update world.aborted signal (some reason)
            log := world.log ++ [.aborted signal] } }
    else none
  | .observe identity =>
    some { q with
      pool := q.pool.move fun world =>
        { world with tracker := world.tracker.observe identity } }

end LifecycleQueue

end Threadwire
