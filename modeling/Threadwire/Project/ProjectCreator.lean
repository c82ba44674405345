import Threadwire.Cdp.MutationGuardedChromeRemoteInterfaceSession
import Threadwire.Effect.Monitor
import Threadwire.Project.ProjectRegistry
import Threadwire.Routing.OperationScheduler

/-!
# The creation of a project

One call of `create` of `project/ProjectCreator.ts`, over a scheduler, a registry and the sessions.
The call is scheduled; when its callback starts, `withTimeout` races a loop against a signal of its
own, which the timer and the caller's signal abort. The loop calls `createProjectThroughUi` of the
session manager until the control of the page is there. An abort ends the race and the call of the
manager; it does not end the operation of the session, which runs on until it looks at the signal.

Others use the scheduler and the registry, and change the sessions. What the client answers, when,
and what the manager's checks of the session say, is arbitrary. Which of the two promises settles a
race is the choice of the input where both have settled.
-/

namespace Threadwire

/-- `PROJECT_CREATION_CONTROL_UNAVAILABLE_MESSAGE`. -/
def PROJECT_CREATION_CONTROL_UNAVAILABLE_MESSAGE : String :=
  "Project creation control was unavailable."

/-- What a call of `create` does. `called` is a call of `createProjectThroughUi` of the manager and
`returned` a return of it; `mutationAttempted` is the first call of `onMutationAttempted`, and
`confirmed` a dispatch of the confirmation click. -/
inductive CreationEvent where
  | started (lease : RuntimeLease)
  | called
  | mutationAttempted
  | confirmed
  | returned (locator : ProjectLocator)
  | marked (lease : RuntimeLease)
  | settled (outcome : Except ThrownError ProjectHandle)

/-- Where the loop of the callback is. It is `due` until the microtask that starts it, and `entering`
is the time of the manager's checks before the session's operation. -/
inductive CreationLoop where
  | unstarted
  | due
  | entering
  | calling (operation : ℕ)
  | delaying
  | finished (outcome : Except ThrownError ProjectLocator)

/-- Where the call is: its entry waits in the queue, the race of `withTimeout` is on, the callback
has ended and the scheduler has yet to see it, or the promise has settled. -/
inductive CreationStage where
  | queued
  | racing (lease : RuntimeLease)
  | leaving (outcome : Except ThrownError ProjectHandle)
  | settled

/-- A call of `create`. A call that was refused has no entry in the scheduler. -/
structure CreationCall where
  entry : Option ℕ
  name : Text
  signal : Option SignalId
  stage : CreationStage := .queued
  loop : CreationLoop := .unstarted

/-- The sessions, where `outer` is `mutationAttempted`, and what the call has done. -/
abbrev CreationWorld := SessionWorld Bool × List CreationEvent

/-- The operations of the sessions that the call has started. -/
abbrev CreationPool :=
  Pool CreationWorld SessionRequest SessionRequest.Answer ThrownError ProjectLocator

/-- The scheduler, the registry, the sessions and the call. -/
structure CreatorSystem where
  scheduler : SchedulerSystem ProjectHandle := {}
  registry : ProjectRegistrySystem := {}
  pool : CreationPool := { state := ({ outer := false }, []) }
  call : Option CreationCall := none

/-- The platform, the settings of the sessions, and whether they are the ones that check before each
mutation. -/
structure CreatorConfig where
  unicode : UnicodePlatform
  platform : Whatwg.UrlPlatform
  session : ChromeSessionConfig
  guarded : Bool

/-- What can happen. -/
inductive CreatorInput where
  | create (name : Text) (signal : Option SignalId)
  | scheduler (input : SchedulerInput ProjectHandle)
  | register (value : String) (handleFactory : ThreadHandleFactory)
  | session (session : SessionId) (f : SessionFields → SessionFields)
  | answer (operation : ℕ) (answers : ∀ request : SessionRequest, Option request.Answer)
  | deadline
  | begin
  | admitted (outcome : Except ThrownError SessionId)
  | returned (check : Except ThrownError Unit)
  | abandoned
  | delayed
  | delayAborted
  | raced (byAbort : Bool) (handleFactory : ThreadHandleFactory)
  | left (frame : ℕ)

namespace ProjectCreator

open ChromeRemoteInterfaceSession MutationGuardedChromeRemoteInterfaceSession

/-! ## The operation of the session -/

/-- The signal of `withTimeout`. -/
def deadlineSignal : OperationSignal := 0

/-- The dispatch of the confirmation click. -/
def confirmation? : SessionLogEntry → Option CreationEvent
  | .sent _ (.evaluate (.confirm _)) => some .confirmed
  | _ => none

/-- Notes the first call of `onMutationAttempted`, and the confirmations. -/
def creationMonitor :
    Monitor (SessionWorld Bool) SessionRequest SessionRequest.Answer (List CreationEvent) where
  moved world world' events :=
    events ++ (if !world.outer && world'.outer then [.mutationAttempted] else []) ++
      (world'.log.drop world.log.length).filterMap confirmation?

/-- The settings of a session on this platform. -/
def sessionConfig (config : CreatorConfig) : ChromeSessionConfig :=
  { config.session with
    createProjectLocator := fun url => (createProjectLocator config.platform url).toOption }

/-- The mutation scope of `createProjectThroughUi`, where the session has one. -/
def mutationScope (config : CreatorConfig) : Option (MutationScope Bool) :=
  if config.guarded then
    some { signal := some deadlineSignal, runtimeEvaluate := true, inputInsertText := true }
  else none

/-- `session.createProjectThroughUi(name, signal, onMutationAttempted)`. -/
def uiOperation (config : CreatorConfig) (session : SessionId) (operation : ℕ) (name : Text) :
    SessionM Bool ProjectLocator :=
  createProjectThroughUi (sessionConfig config) session
    (mutationAwareClient operation (mutationScope config)) name (some deadlineSignal)
    fun _ => (.ok (), true)

/-! ## The state -/

/-- What the call has done, in order. -/
def events (s : CreatorSystem) : List CreationEvent := s.pool.state.2

/-- Append to the events. -/
def record (s : CreatorSystem) (event : CreationEvent) : CreatorSystem :=
  { s with pool := s.pool.move fun world => (world.1, world.2 ++ [event]) }

/-- The reason of the signal of `withTimeout`, once it is aborted. -/
def abortReason (s : CreatorSystem) : Option (Option ThrownError) :=
  s.pool.state.1.aborted.lookup deadlineSignal

/-- `controller.abort(reason)`. -/
def abortDeadline (s : CreatorSystem) (reason : ThrownError) : CreatorSystem :=
  { s with pool := s.pool.move fun world => (abort deadlineSignal (some reason) world.1, world.2) }

/-- What the scheduler does with the entry. -/
def ownEvent? (entry : ℕ) : SchedulerEvent ProjectHandle → Option CreationEvent
  | .started id lease => if id = entry then some (.started lease) else none
  | .settled id outcome => if id = entry then some (.settled outcome) else none
  | _ => none

/-- The scheduler has made a step. It starts the callback, which calls `withTimeout` at once, or it
settles the promise; a step does at most one of the two. `withTimeout` does not find the signal
aborted, for `run` has just looked. -/
def follow (s : CreatorSystem) (scheduler : SchedulerSystem ProjectHandle) : CreatorSystem :=
  let news := scheduler.log.drop s.scheduler.log.length
  let s := { s with scheduler }
  match s.call with
  | none => s
  | some call =>
    match call.entry.bind fun entry => news.findSome? (ownEvent? entry) with
    | some (.started lease) =>
      { record s (.started lease) with
        call := some { call with stage := .racing lease, loop := .due } }
    | some (.settled outcome) =>
      { record s (.settled outcome) with call := some { call with stage := .settled } }
    | _ => s

/-- `onParentAbort`: while the race is on, an abort of the caller's signal aborts the other one. -/
def followAbort (s : CreatorSystem) : SchedulerInput ProjectHandle → CreatorSystem
  | .abort signal reason =>
    match s.call with
    | some { signal := some parent, stage := .racing _, .. } =>
      if parent = signal ∧ (s.scheduler.aborted signal).isNone then
        abortDeadline s ((ThrownError.ofCode .operationAborted).withCause reason)
      else s
    | _ => s
  | _ => s

/-- Whether the input is the end of the callback of the call. -/
def completesOwn (s : CreatorSystem) : SchedulerInput ProjectHandle → Bool
  | .complete frame _ =>
    s.call.any fun call => call.entry.any fun entry =>
      s.scheduler.drains[frame]? == some (.awaiting entry)
  | _ => false

/-! ## The call -/

/-- `create`, until it awaits the promise of the scheduler. -/
def create (config : CreatorConfig) (s : CreatorSystem) (name : Text) (signal : Option SignalId) :
    Option CreatorSystem :=
  let refuse (s : CreatorSystem) (error : ThrownError) : CreatorSystem :=
    { record s (.settled (.error error)) with
      call := some { entry := none, name, signal, stage := .settled } }
  match createProjectName config.unicode name with
  | .error error => some (refuse s error)
  | .ok validatedName =>
    (s.scheduler.step (.schedule .project signal)).map fun scheduler =>
      match s.scheduler.admitSchedule signal with
      | .error error => refuse { s with scheduler } error
      | .ok _ =>
        let call : CreationCall := { entry := some s.scheduler.scheduled, name := validatedName, signal }
        follow { s with call := some call } scheduler

/-- The loop moves. -/
def setLoop (s : CreatorSystem) (call : CreationCall) (loop : CreationLoop) : CreatorSystem :=
  { s with call := some { call with loop } }

/-- The call of `ui.createProjectThroughUi`. -/
def callUi (s : CreatorSystem) (call : CreationCall) : CreatorSystem :=
  setLoop (record s .called) call .entering

/-- The `catch` in the loop: the error is thrown again, or the loop delays. What is thrown is always
an `Error`, and `delay` throws at once where the signal is aborted. -/
def catchError (s : CreatorSystem) (call : CreationCall) (error : ThrownError) : CreatorSystem :=
  if s.pool.state.1.outer || error.head.message != PROJECT_CREATION_CONTROL_UNAVAILABLE_MESSAGE then
    setLoop s call (.finished (.error error))
  else
    match abortReason s with
    | some reason => setLoop s call (.finished (.error (abortedError reason)))
    | none => setLoop s call .delaying

/-- The checks of the manager are done: `runReadinessSessionOperation` looks at the signal and calls
the operation. -/
def enter (config : CreatorConfig) (s : CreatorSystem) (call : CreationCall) :
    Except ThrownError SessionId → CreatorSystem
  | .error error => catchError s call error
  | .ok session =>
    match abortReason s with
    | some reason => catchError s call (abortedError reason)
    | none =>
      let operation := s.pool.running.length
      let x := (uiOperation config session operation call.name).watch creationMonitor
      setLoop { s with pool := s.pool.start x } call (.calling operation)

/-- The operation of the session is over, and `runReadinessSessionOperation` checks again. -/
def completeUi (s : CreatorSystem) (call : CreationCall) (check : Except ThrownError Unit) :
    Except ThrownError ProjectLocator → CreatorSystem
  | .error error => catchError s call error
  | .ok locator =>
    match abortReason s, check with
    | some reason, _ => catchError s call (abortedError reason)
    | none, .error error => catchError s call error
    | none, .ok _ => setLoop (record s (.returned locator)) call (.finished (.ok locator))

/-- The error that the callback throws. -/
def creationError (error : ThrownError) : ThrownError :=
  if error.isInstance .runtimeGenerationChanged || error.isInstance .operationAborted then error
  else .ofCode .projectCreationFailed

/-- The `catch` of the callback. -/
def fail (s : CreatorSystem) (call : CreationCall) (lease : RuntimeLease) (error : ThrownError) :
    Option CreatorSystem :=
  let leave (s : CreatorSystem) : CreatorSystem :=
    { s with call := some { call with stage := .leaving (.error (creationError error)) } }
  if s.pool.state.1.outer then
    (s.scheduler.step (.markRuntimeMutationStateUncertain lease)).map fun scheduler =>
      leave { record s (.marked lease) with scheduler }
  else some (leave s)

/-- What settles the race. -/
def raceOutcome (s : CreatorSystem) (call : CreationCall) (byAbort : Bool) :
    Option (Except ThrownError ProjectLocator) :=
  if byAbort then (abortReason s).map fun reason => .error (abortedError reason)
  else
    match call.loop with
    | .finished outcome => some outcome
    | _ => none

/-- The callback goes on after the race. -/
def leave (config : CreatorConfig) (s : CreatorSystem) (call : CreationCall) (lease : RuntimeLease)
    (handleFactory : ThreadHandleFactory) :
    Except ThrownError ProjectLocator → Option CreatorSystem
  | .error error => fail s call lease error
  | .ok locator =>
    match s.registry.toProjectRegistry.register config.platform handleFactory locator with
    | .error error => fail s call lease error
    | .ok (handle, registry) =>
      some { s with
        registry := { registry with registered := s.registry.registered ++ [(locator, handle)] }
        call := some { call with stage := .leaving (.ok handle) } }

/-- One thing happens to the call. -/
def stepCall (config : CreatorConfig) (s : CreatorSystem) (call : CreationCall) :
    CreatorInput → Option CreatorSystem
  | .deadline =>
    match call.stage with
    | .racing _ =>
      some (abortDeadline s
        (ThrownError.ofCodeMessage .operationTimeout "Project creation timed out."))
    | _ => none
  | .begin =>
    match call.loop with
    | .due => some (callUi s call)
    | _ => none
  | .admitted outcome =>
    match call.loop with
    | .entering => some (enter config s call outcome)
    | _ => none
  | .returned check =>
    match call.loop with
    | .calling operation =>
      match s.pool.running[operation]? with
      | some (.done outcome) => some (completeUi s call check outcome)
      | _ => none
    | _ => none
  | .abandoned =>
    match call.loop with
    | .calling _ => (abortReason s).map fun reason => catchError s call (abortedError reason)
    | _ => none
  | .delayed =>
    match call.loop with
    | .delaying => some (callUi s call)
    | _ => none
  | .delayAborted =>
    match call.loop with
    | .delaying =>
      (abortReason s).map fun reason => setLoop s call (.finished (.error (abortedError reason)))
    | _ => none
  | .raced byAbort handleFactory =>
    match call.stage with
    | .racing lease => (raceOutcome s call byAbort).bind (leave config s call lease handleFactory)
    | _ => none
  | .left frame =>
    match call.stage, call.entry with
    | .leaving outcome, some entry =>
      if s.scheduler.drains[frame]? = some (.awaiting entry) then
        (s.scheduler.step (.complete frame outcome)).map (follow s)
      else none
    | _, _ => none
  | _ => none

/-- One thing happens. -/
def step (config : CreatorConfig) (s : CreatorSystem) : CreatorInput → Option CreatorSystem
  | .create name signal => if s.call.isSome then none else create config s name signal
  | .scheduler input =>
    if completesOwn s input then none
    else (s.scheduler.step input).map (follow (followAbort s input))
  | .register value handleFactory =>
    (s.registry.step config.platform (value, handleFactory)).map fun registry => { s with registry }
  | .session session f =>
    some { s with pool := s.pool.move fun world => (setFields session f world.1, world.2) }
  | .answer operation answers => some { s with pool := s.pool.resume operation answers }
  | input => s.call.bind fun call => stepCall config s call input

/-- The system after these things, where what cannot happen does not. -/
def run (config : CreatorConfig) (inputs : List CreatorInput) : CreatorSystem :=
  inputs.foldl (fun s input => (step config s input).getD s) {}

end ProjectCreator

end Threadwire
