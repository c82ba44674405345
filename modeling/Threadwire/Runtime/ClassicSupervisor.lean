import Threadwire.Domain.RuntimeGeneration
import Threadwire.Machine.Runs

/-!
# The supervisor of the Classic process

`runtime/ClassicSupervisor.ts`: `stop` and `restart` run one at a time in the lifecycle queue, while
`inspect` may be called at any time. Each of them looks at the processes by a query that takes its
time.

The system below holds the calls that are suspended at an `await`, together with the processes of
the machine. A query is sampled at some moment between its start and its answer, so its answer says
what was true then. The body that `withTimeout` abandons goes on in the background until its query
is answered: a wait for an exit or for a new process can still record what it sees.

An identity never comes back after its process has exited.
-/

namespace Threadwire

/-- `ClassicProcessRole`. -/
inductive ClassicProcessRole where
  | MAIN
  | CHILD
deriving DecidableEq, Repr

/-- `ClassicProcessObservation`. -/
structure ClassicProcessObservation where
  pid : ℕ
  parentPid : ℕ
  creationTime : String
  role : ClassicProcessRole
deriving DecidableEq, Repr

/-- `ClassicProcessInfo`. -/
structure ClassicProcessInfo extends ClassicProcessObservation where
  commandLine : Option String := none
deriving DecidableEq, Repr

/-- `ClassicRuntimeSnapshot`. -/
structure ClassicRuntimeSnapshot where
  isRunning : Bool
  pid : Option ℕ
  generation : ℕ
  mainProcess : Option ClassicProcessObservation
  processes : List ClassicProcessObservation
deriving DecidableEq, Repr

/-- `runtimeIdentity`. -/
def runtimeIdentity (process : ClassicProcessInfo) : RuntimeIdentity :=
  { pid := process.pid, creationTime := process.creationTime }

/-- `processMatchesIdentity`. -/
def processMatchesIdentity (process : ClassicProcessInfo) (identity : RuntimeIdentity) : Bool :=
  sameRuntimeIdentity (runtimeIdentity process) identity

/-- `processObservation`. -/
def processObservation (process : ClassicProcessInfo) : ClassicProcessObservation :=
  process.toClassicProcessObservation

/-- `selectUniqueMainProcess`. -/
def selectUniqueMainProcess (processes : List ClassicProcessInfo) :
    Except ThrownError (Option ClassicProcessInfo) :=
  if processes.length = 0 then .ok none
  else
    let mains := processes.filter fun process => process.role == .MAIN
    if mains.length ≠ 1 then .error (.ofCode .classicProcessTopologyInvalid)
    else .ok mains.head?

/-- `REQUIRED_STOP_QUIESCENT_OBSERVATIONS`. -/
def REQUIRED_STOP_QUIESCENT_OBSERVATIONS : ℕ := 2

/-- `ClassicSupervisor`: the fields that change, the lifecycle queue apart. -/
structure ClassicSupervisor where
  tracker : RuntimeGenerationTracker := {}
  stopInProgress : Bool := false
deriving DecidableEq, Repr

/-- `assertRuntimeLeaseCurrentObserved`, once its query is answered. -/
def RuntimeGenerationTracker.assertObserved (t : RuntimeGenerationTracker)
    (processes : List ClassicProcessInfo) (expectedLease : RuntimeLease) :
    Except ThrownError Unit × RuntimeGenerationTracker :=
  match selectUniqueMainProcess processes with
  | .error error => (.error error, t)
  | .ok none => (.error (.ofCode .runtimeGenerationChanged), t.observe none)
  | .ok (some process) =>
    let t := t.observe (some (runtimeIdentity process))
    if !sameRuntimeIdentity (runtimeIdentity process) expectedLease.identity then
      (.error (.ofCode .runtimeGenerationChanged), t)
    else (t.assertRuntimeLeaseCurrent expectedLease, t)

/-! ## Suspended calls -/

/-- The operations of the lifecycle queue that replace the runtime. -/
inductive LifecycleKind where
  | stop
  | restart
deriving DecidableEq, Repr

/-- An operation of the lifecycle queue. If its signal is aborted, then with this reason. -/
structure LifecycleOperation where
  kind : LifecycleKind
  aborted : Option (Option ThrownError) := none
deriving DecidableEq, Repr

/-- Where the lifecycle operation is suspended. `leaving` is the end of `stopCapturedProcesses`, and
`stopped` that of `stopExclusive`. -/
inductive LifecycleStage where
  | capturing
  | stopCommand (previousIdentities : List RuntimeIdentity)
  | exitQuery (previousIdentities : List RuntimeIdentity) (stopCommandError : Option ThrownError)
    (quiescentObservations : ℕ)
  | exitDelay (previousIdentities : List RuntimeIdentity) (stopCommandError : Option ThrownError)
    (quiescentObservations : ℕ)
  | leaving (outcome : Except ThrownError Unit) (previousIdentities : List RuntimeIdentity)
  | stopped (previousIdentities : List RuntimeIdentity)
  | resolving (generationBeforeLaunch : ℕ)
  | launchQuery (generationBeforeLaunch : ℕ)
  | launching (generationBeforeLaunch : ℕ)
  | startQuery (generationBeforeLaunch : ℕ)
  | startDelay (generationBeforeLaunch : ℕ)
deriving DecidableEq, Repr

/-- Whether a process query is awaited. -/
def LifecycleStage.isQuery : LifecycleStage → Bool
  | .capturing | .exitQuery _ _ _ | .launchQuery _ | .startQuery _ => true
  | .stopCommand _ | .exitDelay _ _ _ | .leaving _ _ | .stopped _ | .resolving _ | .launching _
  | .startDelay _ => false

/-- Whether the operation is inside a `withTimeout`. -/
def LifecycleStage.isTimed : LifecycleStage → Bool
  | .stopCommand _ | .exitQuery _ _ _ | .exitDelay _ _ _ | .startQuery _ | .startDelay _ => true
  | .capturing | .leaving _ _ | .stopped _ | .resolving _ | .launchQuery _ | .launching _ => false

/-- The running operation, with what its query has sampled. -/
structure ActiveOperation extends LifecycleOperation where
  stage : LifecycleStage
  sampled : Option (List ClassicProcessInfo) := none
deriving DecidableEq, Repr

/-- Who awaits a query outside the lifecycle queue. -/
inductive Asker where
  | inspect
  | abandonedStop (previousIdentities : List RuntimeIdentity) (quiescentObservations : ℕ)
  | abandonedStart
deriving DecidableEq, Repr

/-- A query in the background. -/
structure ProcessQuery where
  asker : Asker
  sampled : Option (List ClassicProcessInfo) := none
deriving DecidableEq, Repr

/-- What the calls end with. `exitObserved` is the end of the wait for these processes to exit, and
`stopResolved` the end of the stop that captured them. -/
inductive SupervisorEvent where
  | inspected (outcome : Except ThrownError ClassicRuntimeSnapshot)
  | exitObserved (previousIdentities : List RuntimeIdentity)
  | stopResolved (previousIdentities : List RuntimeIdentity)
  | settled (kind : LifecycleKind) (outcome : Except ThrownError (Option ℕ))
deriving DecidableEq, Repr

/-- A supervisor with its suspended calls and the processes of the machine. -/
structure SupervisorSystem extends ClassicSupervisor where
  active : Option ActiveOperation := none
  lifecycleTail : List LifecycleOperation := []
  queries : List ProcessQuery := []
  alive : List RuntimeIdentity := []
  exited : List RuntimeIdentity := []
  log : List SupervisorEvent := []
deriving DecidableEq, Repr

/-- What the environment does. A query in the background is named by its position, and so is an
operation in the queue. -/
inductive SupervisorInput where
  | appear (identity : RuntimeIdentity)
  | exit (identity : RuntimeIdentity)
  | inspect
  | call (kind : LifecycleKind)
  | abort (reason : Option ThrownError)
  | abortPending (operation : ℕ) (reason : Option ThrownError)
  | run
  | sample (processes : List ClassicProcessInfo)
  | answer (outcome : Except ThrownError Unit)
  | resume (outcome : Except ThrownError Unit)
  | interrupt (error : ThrownError)
  | sampleQuery (query : ℕ) (processes : List ClassicProcessInfo)
  | answerQuery (query : ℕ) (outcome : Except ThrownError Unit)
deriving DecidableEq, Repr

namespace SupervisorSystem

/-- `tracker.observe`. -/
def observe (s : SupervisorSystem) (identity : Option RuntimeIdentity) : SupervisorSystem :=
  { s with tracker := s.tracker.observe identity }

/-- Append to the log. -/
def record (s : SupervisorSystem) (event : SupervisorEvent) : SupervisorSystem :=
  { s with log := s.log ++ [event] }

/-- The rest of `inspect`, once its query is answered. -/
def inspected (s : SupervisorSystem) (answer : Except ThrownError (List ClassicProcessInfo)) :
    SupervisorSystem :=
  match answer with
  | .error error => s.record (.inspected (.error error))
  | .ok processes =>
    match selectUniqueMainProcess processes with
    | .error error => s.record (.inspected (.error error))
    | .ok mainProcess =>
      let s := if s.stopInProgress then s else s.observe (mainProcess.map runtimeIdentity)
      s.record (.inspected (.ok
        { isRunning := mainProcess.isSome
          pid := mainProcess.map fun process => process.pid
          generation := s.tracker.generation
          mainProcess := mainProcess.map processObservation
          processes := processes.map processObservation }))

/-! ## The lifecycle operations -/

/-- The operation goes on to this stage. -/
def goto (s : SupervisorSystem) (op : LifecycleOperation) (stage : LifecycleStage) :
    SupervisorSystem :=
  { s with active := some { op with stage, sampled := none } }

/-- The operation is over. -/
def settle (s : SupervisorSystem) (op : LifecycleOperation)
    (outcome : Except ThrownError (Option ℕ)) : SupervisorSystem :=
  { s with active := none, log := s.log ++ [.settled op.kind outcome] }

/-- `throwIfAborted(signal)`. -/
def throwIfAborted (op : LifecycleOperation) : Except ThrownError Unit :=
  match op.aborted with
  | none => .ok ()
  | some reason => .error (abortedError reason)

/-- The error of a failed wait for the exit. -/
def exitError (stopCommandError : Option ThrownError) (error : ThrownError) : ThrownError :=
  if error.isInstance .operationTimeout then
    match stopCommandError with
    | some cause => (ThrownError.ofCode .classicStopFailed).withCause (some cause)
    | none => (ThrownError.ofCode .processExitTimeout).withCause (some error)
  else error

/-- The error of a failed wait for the new process. -/
def startError (error : ThrownError) : ThrownError :=
  if error.isInstance .operationTimeout then
    (ThrownError.ofCode .newProcessNotObserved).withCause (some error)
  else error

/-- `stopCapturedProcesses` from its second `withTimeout` on: the wait for the exit. -/
def waitForExit (s : SupervisorSystem) (op : LifecycleOperation)
    (previousIdentities : List RuntimeIdentity) (stopCommandError : Option ThrownError) :
    SupervisorSystem :=
  match throwIfAborted op with
  | .ok _ => s.goto op (.exitQuery previousIdentities stopCommandError 0)
  | .error error =>
    s.goto op (.leaving (.error (exitError stopCommandError error)) previousIdentities)

/-- The end of the stop command. Only an abort is thrown on. -/
def stopCommandEnded (s : SupervisorSystem) (op : LifecycleOperation)
    (previousIdentities : List RuntimeIdentity) (outcome : Except ThrownError Unit) :
    SupervisorSystem :=
  match outcome with
  | .ok _ => s.waitForExit op previousIdentities none
  | .error error =>
    if error.isInstance .operationAborted then
      s.goto op (.leaving (.error error) previousIdentities)
    else s.waitForExit op previousIdentities (some error)

/-- `stopCapturedProcesses` from its first answer on. -/
def captured (s : SupervisorSystem) (op : LifecycleOperation)
    (processes : List ClassicProcessInfo) : SupervisorSystem :=
  match selectUniqueMainProcess processes with
  | .error error => s.goto op (.leaving (.error error) [])
  | .ok mainProcess =>
    let s :=
      match mainProcess with
      | some process => s.observe (some (runtimeIdentity process))
      | none => s
    if processes.length = 0 then (s.observe none).goto op (.leaving (.ok ()) [])
    else
      let s := s.observe none
      let previousIdentities := processes.map runtimeIdentity
      match throwIfAborted op with
      | .ok _ => s.goto op (.stopCommand previousIdentities)
      | .error error => s.stopCommandEnded op previousIdentities (.error error)

/-- What an answer says to a wait for the exit. -/
inductive ExitObservation where
  | unexpected
  | quiescent
  | present
deriving DecidableEq, Repr

/-- Whether another process is there, or one of the captured ones. -/
def observeExit (previousIdentities : List RuntimeIdentity) (remaining : List ClassicProcessInfo) :
    ExitObservation :=
  if remaining.any fun process =>
      !previousIdentities.any fun identity => processMatchesIdentity process identity then
    .unexpected
  else if previousIdentities.any fun identity =>
      remaining.any fun process => processMatchesIdentity process identity then
    .present
  else .quiescent

/-- The wait for the exit, from an answer to the next `await`. -/
def exitAnswered (s : SupervisorSystem) (op : LifecycleOperation)
    (previousIdentities : List RuntimeIdentity) (stopCommandError : Option ThrownError)
    (quiescentObservations : ℕ) (remaining : List ClassicProcessInfo) : SupervisorSystem :=
  match observeExit previousIdentities remaining with
  | .unexpected =>
    (s.observe none).goto op (.leaving (.error (exitError stopCommandError
      (.ofCodeMessage .classicStopFailed
        "A different ChatGPT Classic runtime appeared while stopping the previous runtime.")))
      previousIdentities)
  | .quiescent =>
    if REQUIRED_STOP_QUIESCENT_OBSERVATIONS ≤ quiescentObservations + 1 then
      ((s.observe none).record (.exitObserved previousIdentities)).goto op
        (.leaving (.ok ()) previousIdentities)
    else s.goto op (.exitDelay previousIdentities stopCommandError (quiescentObservations + 1))
  | .present => s.goto op (.exitDelay previousIdentities stopCommandError 0)

/-- `startNewGeneration` from the answer before the launch on. -/
def launchAnswered (s : SupervisorSystem) (op : LifecycleOperation) (generationBeforeLaunch : ℕ)
    (processesBeforeLaunch : List ClassicProcessInfo) : SupervisorSystem :=
  if processesBeforeLaunch.length ≠ 0 then
    (s.observe none).settle op (.error (.ofCodeMessage .classicStartFailed
      "A ChatGPT Classic runtime appeared before the controlled launch began."))
  else s.goto op (.launching generationBeforeLaunch)

/-- The wait for the new process, from an answer to the next `await`. -/
def startAnswered (s : SupervisorSystem) (op : LifecycleOperation) (generationBeforeLaunch : ℕ)
    (processes : List ClassicProcessInfo) : SupervisorSystem :=
  match selectUniqueMainProcess processes with
  | .error error => s.settle op (.error (startError error))
  | .ok none => s.goto op (.startDelay generationBeforeLaunch)
  | .ok (some process) =>
    let s := s.observe (some (runtimeIdentity process))
    if generationBeforeLaunch < s.tracker.generation then
      s.settle op (.ok (some s.tracker.generation))
    else s.goto op (.startDelay generationBeforeLaunch)

/-- The query of the operation is answered. -/
def answered (s : SupervisorSystem) (op : LifecycleOperation) (stage : LifecycleStage)
    (processes : List ClassicProcessInfo) : Option SupervisorSystem :=
  match stage with
  | .capturing => some (s.captured op processes)
  | .exitQuery previousIdentities stopCommandError quiescentObservations =>
    some (s.exitAnswered op previousIdentities stopCommandError quiescentObservations processes)
  | .launchQuery generationBeforeLaunch =>
    some (s.launchAnswered op generationBeforeLaunch processes)
  | .startQuery generationBeforeLaunch =>
    some (s.startAnswered op generationBeforeLaunch processes)
  | .stopCommand _ | .exitDelay _ _ _ | .leaving _ _ | .stopped _ | .resolving _ | .launching _
  | .startDelay _ => none

/-- What the operation awaits fails. -/
def failed (s : SupervisorSystem) (op : LifecycleOperation) (stage : LifecycleStage)
    (error : ThrownError) : Option SupervisorSystem :=
  match stage with
  | .capturing => some (s.goto op (.leaving (.error error) []))
  | .stopCommand previousIdentities =>
    some (s.stopCommandEnded op previousIdentities (.error error))
  | .exitQuery previousIdentities stopCommandError _
  | .exitDelay previousIdentities stopCommandError _ =>
    some (s.goto op (.leaving (.error (exitError stopCommandError error)) previousIdentities))
  | .resolving _ | .launchQuery _ => some (s.settle op (.error error))
  | .launching _ =>
    some (s.settle op (.error
      (if error.isInstance .operationAborted then error
      else (ThrownError.ofCode .classicStartFailed).withCause (some error))))
  | .startQuery _ | .startDelay _ => some (s.settle op (.error (startError error)))
  | .leaving _ _ | .stopped _ => none

/-- What the operation awaits, other than a query, succeeds. -/
def resumed (s : SupervisorSystem) (op : LifecycleOperation) (stage : LifecycleStage) :
    Option SupervisorSystem :=
  match stage with
  | .stopCommand previousIdentities => some (s.stopCommandEnded op previousIdentities (.ok ()))
  | .exitDelay previousIdentities stopCommandError quiescentObservations =>
    some (s.goto op (.exitQuery previousIdentities stopCommandError quiescentObservations))
  | .leaving outcome previousIdentities =>
    let s := { s with stopInProgress := false }
    match outcome with
    | .ok _ => some (s.goto op (.stopped previousIdentities))
    | .error error => some (s.settle op (.error error))
  | .stopped previousIdentities =>
    match op.kind with
    | .stop =>
      -- a caller that has aborted has been rejected already
      let s := if op.aborted.isSome then s else s.record (.stopResolved previousIdentities)
      some (s.settle op (.ok none))
    | .restart =>
      let s := s.record (.stopResolved previousIdentities)
      some (s.goto op (.resolving s.tracker.generation))
  | .resolving generationBeforeLaunch => some (s.goto op (.launchQuery generationBeforeLaunch))
  | .launching generationBeforeLaunch =>
    match throwIfAborted op with
    | .ok _ => some (s.goto op (.startQuery generationBeforeLaunch))
    | .error error => some (s.settle op (.error (startError error)))
  | .startDelay generationBeforeLaunch => some (s.goto op (.startQuery generationBeforeLaunch))
  | .capturing | .exitQuery _ _ _ | .launchQuery _ | .startQuery _ => none

/-- `withTimeout` gives up a wait; a query that the wait has sent goes on in the background. -/
def abandon (s : SupervisorSystem) (op : ActiveOperation) : SupervisorSystem :=
  match op.stage with
  | .exitQuery previousIdentities _ quiescentObservations =>
    { s with queries := s.queries ++
      [⟨.abandonedStop previousIdentities quiescentObservations, op.sampled⟩] }
  | .startQuery _ => { s with queries := s.queries ++ [⟨.abandonedStart, op.sampled⟩] }
  | _ => s

/-- An operation begins. -/
def begin (s : SupervisorSystem) (op : LifecycleOperation) : SupervisorSystem :=
  match throwIfAborted op with
  | .error error => s.settle op (.error error)
  | .ok _ => { s with stopInProgress := true }.goto op .capturing

/-- A query in the background is answered. The body of an abandoned wait stops at its next `await`,
which throws. -/
def queryAnswered (s : SupervisorSystem) (asker : Asker)
    (answer : Except ThrownError (List ClassicProcessInfo)) : SupervisorSystem :=
  match asker, answer with
  | .inspect, answer => s.inspected answer
  | .abandonedStop _ _, .error _ | .abandonedStart, .error _ => s
  | .abandonedStop previousIdentities quiescentObservations, .ok remaining =>
    match observeExit previousIdentities remaining with
    | .unexpected => s.observe none
    | .quiescent =>
      if REQUIRED_STOP_QUIESCENT_OBSERVATIONS ≤ quiescentObservations + 1 then s.observe none
      else s
    | .present => s
  | .abandonedStart, .ok processes =>
    match selectUniqueMainProcess processes with
    | .ok (some process) => s.observe (some (runtimeIdentity process))
    | .ok none | .error _ => s

/-- The processes are those of the machine at this moment. -/
def Shows (s : SupervisorSystem) (processes : List ClassicProcessInfo) : Prop :=
  (∀ identity ∈ processes.map runtimeIdentity, identity ∈ s.alive) ∧
    ∀ identity ∈ s.alive, identity ∈ processes.map runtimeIdentity

instance (s : SupervisorSystem) (processes : List ClassicProcessInfo) :
    Decidable (s.Shows processes) :=
  inferInstanceAs (Decidable (_ ∧ _))

/-- The system after an input, if the input can occur. -/
def step (s : SupervisorSystem) : SupervisorInput → Option SupervisorSystem
  | .appear identity =>
    if identity ∈ s.alive ∨ identity ∈ s.exited then none
    else some { s with alive := identity :: s.alive }
  | .exit identity =>
    if identity ∈ s.alive then
      some { s with
        alive := s.alive.filter fun other => other ≠ identity
        exited := identity :: s.exited }
    else none
  | .inspect => some { s with queries := s.queries ++ [⟨.inspect, none⟩] }
  | .call kind => some { s with lifecycleTail := s.lifecycleTail ++ [{ kind }] }
  | .abort reason =>
    match s.active with
    | some op => some { s with active := some { op with aborted := some (op.aborted.getD reason) } }
    | none => none
  | .abortPending operation reason =>
    match s.lifecycleTail[operation]? with
    | some op => some { s with
        lifecycleTail :=
          s.lifecycleTail.set operation { op with aborted := some (op.aborted.getD reason) } }
    | none => none
  | .run =>
    match s.active, s.lifecycleTail with
    | none, op :: rest => some ({ s with lifecycleTail := rest }.begin op)
    | _, _ => none
  | .sample processes =>
    match s.active with
    | some op =>
      if op.stage.isQuery ∧ op.sampled = none ∧ s.Shows processes then
        some { s with active := some { op with sampled := some processes } }
      else none
    | none => none
  | .answer outcome =>
    match s.active, outcome with
    | some op, .ok _ =>
      match op.sampled with
      | some processes => s.answered op.toLifecycleOperation op.stage processes
      | none => none
    | some op, .error error =>
      if op.stage.isQuery then s.failed op.toLifecycleOperation op.stage error else none
    | none, _ => none
  | .resume outcome =>
    match s.active, outcome with
    | some op, .ok _ => s.resumed op.toLifecycleOperation op.stage
    | some op, .error error =>
      if op.stage.isQuery then none else s.failed op.toLifecycleOperation op.stage error
    | none, _ => none
  | .interrupt error =>
    match s.active with
    | some op =>
      if op.stage.isTimed then
        (s.abandon op).failed op.toLifecycleOperation op.stage error
      else none
    | none => none
  | .sampleQuery query processes =>
    match s.queries[query]? with
    | some ⟨asker, none⟩ =>
      if s.Shows processes then
        some { s with queries := s.queries.set query ⟨asker, some processes⟩ }
      else none
    | _ => none
  | .answerQuery query outcome =>
    match s.queries[query]?, outcome with
    | some ⟨asker, some processes⟩, .ok _ =>
      some ({ s with queries := s.queries.eraseIdx query }.queryAnswered asker (.ok processes))
    | some ⟨asker, _⟩, .error error =>
      some ({ s with queries := s.queries.eraseIdx query }.queryAnswered asker (.error error))
    | _, _ => none

end SupervisorSystem

end Threadwire
