import Mathlib.Data.Nat.Pairing
import Threadwire.Cdp.MutationGuardedChromeRemoteInterfaceSession
import Threadwire.Readiness.FreshNoticeBudget

/-!
# Dismissing the known notice

`dismissKnownFreshNotice` of `cdp/CdpSessionManager.ts`, over the sessions and the ledger of one
intent. There are any number of managers, of one process or of several, each with a budget of the
intent; a budget can also be consumed on its own. A process that ends awaits no answer any more, and
one that starts makes new budgets.

A call of the manager is an operation of its session in the session pool, and a readiness operation
of the manager, which races it with the abort of the signal.
-/

namespace Threadwire

/-- The ledger of the intent, its budgets, and for each call of a manager its `possibleInput`. -/
structure NoticeWorld where
  ledger : NoticeLedger
  budgets : List FreshNoticeBudget := []
  possibleInput : ℕ → Bool := fun _ => false

/-- The options of a manager: whether it is a `BoundCdpSessionManager`, whether its sessions check
before each mutation, and what it has for the known notice. A budget is named by its number. -/
structure NoticeOptions where
  bound : Bool
  guarded : Bool
  freshNoticeBudget : Option ℕ
  onReadinessMutationUncertain : Bool

/-- A call of `dismissKnownFreshNotice` whose operation has started: its number among the manager's
operations, and its place among the operations of the sessions. -/
structure DismissalCall where
  manager : ℕ
  session : SessionId
  lease : RuntimeLease
  signal : OperationSignal
  operation : ℕ
  place : ℕ

/-- How the calls end, and the calls of `onReadinessMutationUncertain`. -/
inductive DismissalEvent where
  | refused (error : ThrownError)
  | uncertain (call : ℕ) (lease : RuntimeLease)
  | resolved (call : ℕ)
  | rejected (call : ℕ) (error : ThrownError)

/-- The managers, the operations of their sessions, and the calls. -/
structure NoticeSystem where
  managers : ℕ → SessionSystem Unit := fun _ => {}
  pool : MutationGuardedChromeRemoteInterfaceSession.SessionPool NoticeWorld
  calls : List DismissalCall := []
  events : List DismissalEvent := []

/-- What can happen. -/
inductive NoticeInput where
  | construct
  | consume (budget : ℕ) (lease : RuntimeLease) (document : NoticeDocument)
  | dismiss (manager : ℕ) (snapshot : ExistingReadinessSnapshot) (lease : RuntimeLease)
    (signal : Option OperationSignal) (fuel : ℕ)
  | manager (manager : ℕ) (input : SessionInput Unit)
  | answer (place : ℕ) (answers : ∀ request : SessionRequest, Option request.Answer)
  | abort (signal : OperationSignal) (reason : Option ThrownError)
  | settled (call : ℕ)
  | invalidated (call : ℕ)
  | resume (call : ℕ) (notified : Except ThrownError Unit)
  | disconnected (session : SessionId)
  | ledger (ledger : NoticeLedger)

namespace NoticeWorld

variable (library : NoticeLibrary)

/-- A step of `consume` that looks at its budget and the ledger. -/
def look (budget : ℕ) (f : FreshNoticeBudget → NoticeLedger → Except ThrownError Unit) :
    CallbackStep NoticeWorld := fun world =>
  match world.budgets[budget]? with
  | none => (.error FreshNoticeBudget.rejected, world)
  | some value => (f value world.ledger, world)

/-- The check of the bytes, after which the budget is spent. -/
def spend (budget : ℕ) : CallbackStep NoticeWorld := fun world =>
  match world.budgets[budget]? with
  | none => (.error FreshNoticeBudget.rejected, world)
  | some value =>
    match value.assertUnchanged world.ledger with
    | .error error => (.error error, world)
    | .ok _ =>
      (.ok (), { world with budgets := world.budgets.set budget { value with spent := true } })

/-- The exclusive creation. -/
def create (place : ℕ) : CallbackStep NoticeWorld := fun world =>
  match FreshNoticeBudget.openConsumed world.ledger place with
  | .error error => (.error error, world)
  | .ok ledger => (.ok (), { world with ledger })

/-- The record is written. -/
def write (budget : ℕ) (lease : RuntimeLease) (document : NoticeDocument) :
    CallbackStep NoticeWorld := fun world =>
  match world.budgets[budget]?, world.ledger.writeFault with
  | none, _ => (.error FreshNoticeBudget.rejected, world)
  | some _, some error => (FreshNoticeBudget.closeConsumed world.ledger (.error error), world)
  | some value, none =>
    let record := value.consumedRecord library world.ledger lease document
    (.ok (), { world with ledger := FreshNoticeBudget.writeConsumed world.ledger record })

/-- The record is flushed. -/
def flush : CallbackStep NoticeWorld := fun world =>
  match world.ledger.fsyncFault with
  | some error => (FreshNoticeBudget.closeConsumed world.ledger (.error error), world)
  | none => (.ok (), world)

/-- The file is closed. -/
def close : CallbackStep NoticeWorld := fun world =>
  (FreshNoticeBudget.closeConsumed world.ledger (.ok ()), world)

/-- `consume` of a budget, by the operation of this place: one step for each call of the file
system. -/
def consume (budget place : ℕ) (lease : RuntimeLease) (document : NoticeDocument) :
    List (CallbackStep NoticeWorld) :=
  [look budget fun value _ => value.assertConsumable lease document,
    look budget fun _ ledger => FreshNoticeBudget.assertNoLinks ledger.pathStats, spend budget,
    create place, write library budget lease document, flush, close]

/-- The callback that sets `possibleInput`. -/
def onPossibleInput (place : ℕ) : CallbackStep NoticeWorld := fun world =>
  (.ok (), { world with possibleInput := Function.update world.possibleInput place true })

/-- A new budget of the intent, if its constructor returns one. -/
def construct (intent : Text) (world : NoticeWorld) : NoticeWorld :=
  match FreshNoticeBudget.create library intent world.ledger with
  | .error _ => world
  | .ok budget => { world with budgets := world.budgets ++ [budget] }

/-- The ledger changes under other programs. The file of a consumption is not deleted. -/
def changeLedger (world : NoticeWorld) (ledger : NoticeLedger) : NoticeWorld :=
  let created := ledger.consumedFile.map fun file => { file with openedBy := none }
  { world with ledger := { ledger with consumedFile := world.ledger.consumedFile.or created } }

end NoticeWorld

namespace SessionSystem

variable {α : Type}

/-- `requireSessionForLease`. -/
def requireSessionForLease (s : SessionSystem α) (lease : RuntimeLease) :
    Except ThrownError SessionId := do
  s.runtime.assertRuntimeLeaseCurrent lease
  match s.currentState, s.boundLease, s.session with
  | .CONNECTED, some boundLease, some session =>
    if sameRuntimeLease boundLease lease then pure session
    else throw (.ofCode .runtimeGenerationChanged)
  | _, _, _ => throw (.ofCode .cdpDisconnected)

/-- What `rethrowReadinessLifecycleError` throws. -/
def rethrowReadinessLifecycleError (s : SessionSystem α) (error : ThrownError)
    (session : SessionId) (lease : RuntimeLease) (signal : Option OperationSignal) : ThrownError :=
  match s.throwIfAborted signal with
  | .error aborted => aborted
  | .ok _ =>
    match s.assertSessionForLeaseCurrent session lease with
    | .error lost => lost
    | .ok _ =>
      if error.isInstance .runtimeGenerationChanged ||
          error.isInstance .runtimeProvenanceUnverified || error.isInstance .operationAborted ||
          error.isInstance .cdpDisconnected || error.isInstance .cdpReadinessFailed then
        error
      else (ThrownError.ofCode .cdpReadinessFailed).withCause (some error)

end SessionSystem

namespace NoticeSystem

open Coroutine ChromeRemoteInterfaceSession

variable (config : ChromeSessionConfig) (library : NoticeLibrary) (options : ℕ → NoticeOptions)
  (intent : Text)

/-- The session of a manager among the sessions of all of them. -/
def sessionId (manager : ℕ) (session : SessionId) : SessionId := Nat.pair manager session

/-- `rawMutationSignal`. -/
def rawMutationSignal (manager : ℕ) (signal : OperationSignal) : Option OperationSignal :=
  if (options manager).bound then some signal else none

/-- `dispatchNoticeMouse` of the class of the session. -/
def dispatchNoticeMouse (guarded : Bool) (place : ℕ) (signal : Option OperationSignal)
    (command : NoticeMouseCommand) (guard : NoticeMouseGuard NoticeWorld) :
    SessionM NoticeWorld Unit :=
  if guarded then
    MutationGuardedChromeRemoteInterfaceSession.guardedNoticeMouse place signal command guard
  else ChromeRemoteInterfaceSession.dispatchNoticeMouse ⟨send place⟩ command guard signal

/-- `consume` on its own; the log says when it returns. -/
def consumeAlone (budget place : ℕ) (lease : RuntimeLease) (document : NoticeDocument) :
    SessionM NoticeWorld Unit := do
  callbackSteps (NoticeWorld.consume library budget place lease document)
  record (.consumed place)

/-- The operation of a session that a manager calls. -/
def dismissal (manager budget place : ℕ) (session : SessionId)
    (snapshot : ExistingReadinessSnapshot) (lease : RuntimeLease) (signal : OperationSignal)
    (fuel : ℕ) : SessionM NoticeWorld Unit := do
  let rawSignal := rawMutationSignal options manager signal
  let document : NoticeDocument := ⟨snapshot.mainFrame.frameId, snapshot.mainFrame.loaderId⟩
  record (.called place .dismissKnownFreshNotice rawSignal)
  dismissKnownFreshNotice config (sessionId manager session) place
    (dispatchNoticeMouse (options manager).guarded place rawSignal) fuel snapshot
    (NoticeWorld.consume library budget place lease document) (NoticeWorld.onPossibleInput place)
    rawSignal

/-- The error of a manager that is not authorized. -/
def notAuthorized : ThrownError :=
  .ofCodeMessage .cdpReadinessFailed "Known FRESH notice dismissal is not authorized."

/-- The error of a call whose input may have reached the page. -/
def notSettled : ThrownError :=
  .ofCodeMessage .turnStateUncertain "Known-notice input did not settle authoritatively."

/-- Append to the events. -/
def report (s : NoticeSystem) (events : List DismissalEvent) : NoticeSystem :=
  { s with events := s.events ++ events }

/-- The sessions' world moves by itself. -/
def movePool (s : NoticeSystem) (f : SessionWorld NoticeWorld → SessionWorld NoticeWorld) :
    NoticeSystem :=
  { s with pool := s.pool.move f }

/-- A manager changes. -/
def setManager (s : NoticeSystem) (manager : ℕ) (value : SessionSystem Unit) : NoticeSystem :=
  { s with managers := Function.update s.managers manager value }

/-- A manager takes an input, if the input can occur. -/
def moveManager (s : NoticeSystem) (manager : ℕ) (input : SessionInput Unit) : NoticeSystem :=
  s.setManager manager (((s.managers manager).step input).getD (s.managers manager))

/-- The budget and the signal of a call, if it is authorized. -/
def authorized (s : NoticeSystem) (manager : ℕ) (signal : Option OperationSignal) :
    Option (ℕ × OperationSignal) := do
  let budget ← (options manager).freshNoticeBudget
  guard (budget < s.pool.state.outer.budgets.length)
  guard ((options manager).onReadinessMutationUncertain = true)
  let signal ← signal
  pure (budget, signal)

/-- The operation of a call starts. -/
def startDismissal (s : NoticeSystem) (manager : ℕ) (session : SessionId) (budget : ℕ)
    (snapshot : ExistingReadinessSnapshot) (lease : RuntimeLease) (signal : OperationSignal)
    (fuel : ℕ) : NoticeSystem :=
  let system := s.managers manager
  let place := s.pool.running.length
  let call : DismissalCall :=
    { manager, session, lease, signal, place, operation := system.operations.length }
  { s with
    managers := Function.update s.managers manager
      (system.runSessionOperation .readiness session lease (some signal))
    pool := s.pool.start
      (dismissal config library options manager budget place session snapshot lease signal fuel)
    calls := s.calls ++ [call] }

/-- `dismissKnownFreshNotice` of a manager, up to its `await`. -/
def dismiss (s : NoticeSystem) (manager : ℕ) (snapshot : ExistingReadinessSnapshot)
    (lease : RuntimeLease) (signal : Option OperationSignal) (fuel : ℕ) : NoticeSystem :=
  let system := s.managers manager
  match system.requireSessionForLease lease with
  | .error error => s.report [.refused error]
  | .ok session =>
    match s.authorized options manager signal with
    | none => s.report [.refused notAuthorized]
    | some (budget, signal) =>
      match system.admitOperation session lease (some signal) with
      | .error error =>
        s.report
          [.refused (system.rethrowReadinessLifecycleError error session lease (some signal))]
      | .ok _ =>
        s.startDismissal config library options manager session budget snapshot lease signal fuel

/-- The manager's operation returns or rejects, and with it the call. -/
def finishDismissal (s : NoticeSystem) (number : ℕ) (call : DismissalCall)
    (op : SessionOperation Unit) (outcome : Except ThrownError Unit)
    (notified : Except ThrownError Unit) : NoticeSystem :=
  let system := s.managers call.manager
  let finished := system.finish call.operation op outcome
  let s := s.setManager call.manager finished
  match system.complete op outcome with
  | .ok _ => s.report [.resolved number]
  | .error error =>
    if s.pool.state.outer.possibleInput call.place then
      let uncertain := match notified with
        | .ok _ => notSettled
        | .error error => error
      s.report [.uncertain number call.lease, .rejected number uncertain]
    else
      s.report [.rejected number
        (finished.rethrowReadinessLifecycleError error call.session call.lease
          (some call.signal))]

/-- Whether an input of a manager is about its dismissals, or about all managers. -/
def isShared (s : NoticeSystem) (manager : ℕ) : SessionInput Unit → Bool
  | .operationSettled operation _ | .invalidated operation | .resume operation =>
    s.calls.any fun call => call.manager == manager && call.operation == operation
  | .abort _ _ => true
  | .connect | .disconnect | .settle _ | .discovered _ | .disconnectEvent _ | .changeRuntime _
  | .run _ _ _ _ => false

/-- The outcome of a call's operation, if it has settled. -/
def outcome? (s : NoticeSystem) (call : DismissalCall) : Option (Except ThrownError Unit) :=
  match s.pool.running[call.place]? with
  | some (.done outcome) => some outcome
  | _ => none

/-- One thing happens, if it can. -/
def step (s : NoticeSystem) : NoticeInput → NoticeSystem
  | .construct =>
    s.movePool fun world => { world with outer := world.outer.construct library intent }
  | .consume budget lease document =>
    let place := s.pool.running.length
    { s with pool := s.pool.start (consumeAlone library budget place lease document) }
  | .dismiss manager snapshot lease signal fuel =>
    s.dismiss config library options manager snapshot lease signal fuel
  | .manager manager input =>
    if s.isShared manager input then s else s.moveManager manager input
  | .answer place answers => { s with pool := s.pool.resume place answers }
  | .abort signal reason =>
    { s with
      managers := fun manager =>
        ((s.managers manager).step (.abort signal reason)).getD (s.managers manager)
      pool := s.pool.move (MutationGuardedChromeRemoteInterfaceSession.abort signal reason) }
  | .settled number =>
    match s.calls[number]? with
    | none => s
    | some call =>
      match s.outcome? call with
      | none => s
      | some outcome => s.moveManager call.manager (.operationSettled call.operation outcome)
  | .invalidated number =>
    match s.calls[number]? with
    | none => s
    | some call => s.moveManager call.manager (.invalidated call.operation)
  | .resume number notified =>
    match s.calls[number]? with
    | none => s
    | some call =>
      match (s.managers call.manager).operations[call.operation]? with
      | none => s
      | some op =>
        match op.race, op.finished with
        | some outcome, false => s.finishDismissal number call op outcome notified
        | _, _ => s
  | .disconnected session =>
    s.movePool (MutationGuardedChromeRemoteInterfaceSession.setFields session fun fields =>
      { fields with closed := true, readinessInitialized := false })
  | .ledger ledger =>
    s.movePool fun world => { world with outer := world.outer.changeLedger ledger }

/-- A ledger without budgets, in which the intent may be consumed already. -/
def start (ledger : NoticeLedger) : NoticeSystem :=
  let untouched : NoticeWorld := { ledger := { ledger with consumedFile := none } }
  { pool := { state := { outer := untouched.changeLedger ledger } } }

/-- The system after these things have happened. -/
def run (ledger : NoticeLedger) (inputs : List NoticeInput) : NoticeSystem :=
  inputs.foldl (step config library options intent) (start ledger)

end NoticeSystem

end Threadwire
