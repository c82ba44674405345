import Mathlib.Logic.Function.Basic
import Threadwire.Domain.RuntimeGeneration
import Threadwire.Machine.Runs

/-!
# The session manager

`cdp/CdpSessionManager.ts`: one CDP session at a time, bound to the runtime lease it was attached
under, and the operations that run on it.

A call of `connect` or `disconnect` is suspended at each of its `await`s, and so is an operation of
the session. In between the session can disconnect, the runtime can be replaced and a signal can be
aborted. Calls of `connect` and `disconnect` do not overlap. Each attach makes a new session.
-/

namespace Threadwire

/-- `CdpConnectionState`. -/
inductive CdpConnectionState where
  | DISCONNECTED
  | DISCOVERING
  | ATTACHING
  | CONNECTED
  | FAILED
deriving DecidableEq, Repr

/-- The identity of a `CdpTransportSession`. -/
abbrev SessionId := ℕ

/-- The identity of the `AbortSignal` of an operation. -/
abbrev OperationSignal := ℕ

/-- `CdpSessionManager`: the fields that change. The disconnect subscription is named by its
session. -/
structure CdpSessionManager where
  currentState : CdpConnectionState := .DISCONNECTED
  session : Option SessionId := none
  boundLease : Option RuntimeLease := none
  selectedTargetId : Option String := none
  unsubscribeDisconnect : Option SessionId := none
deriving DecidableEq, Repr

namespace CdpSessionManager

/-- The fields without a session. -/
def forget (m : CdpSessionManager) : CdpSessionManager :=
  { m with
    unsubscribeDisconnect := none
    session := none
    boundLease := none
    selectedTargetId := none }

/-- The new session is installed. -/
def install (m : CdpSessionManager) (lease : RuntimeLease) (targetId : String)
    (session : SessionId) : CdpSessionManager :=
  { m with
    session := some session
    boundLease := some lease
    selectedTargetId := some targetId
    currentState := .CONNECTED
    unsubscribeDisconnect := some session }

/-- The disconnect callback of a session. -/
def disconnectCallback (m : CdpSessionManager) (session : SessionId) : CdpSessionManager :=
  if m.session ≠ some session then m else { m.forget with currentState := .DISCONNECTED }

/-- Whether `connect` finds a session of the lease. -/
def isConnectedFor (m : CdpSessionManager) (lease : RuntimeLease) : Bool :=
  m.currentState == .CONNECTED && m.boundLease.any fun boundLease => sameRuntimeLease boundLease lease

/-- `assertSessionForLeaseCurrent`, after the runtime's own check. -/
def assertSessionForLease (m : CdpSessionManager) (session : SessionId) (lease : RuntimeLease) :
    Except ThrownError Unit :=
  if m.currentState ≠ .CONNECTED ∨ m.session ≠ some session then
    .error (.ofCode .cdpDisconnected)
  else
    match m.boundLease with
    | none => .error (.ofCode .cdpDisconnected)
    | some boundLease =>
      if sameRuntimeLease boundLease lease then .ok ()
      else .error (.ofCode .runtimeGenerationChanged)

/-- The errors that `connect` throws as they are; any other becomes the cause of a
`CdpAttachFailedError`. -/
def attachError (error : ThrownError) : ThrownError :=
  match error.head.errorClass with
  | .threadwire code =>
    match code with
    | .runtimeGenerationChanged | .runtimeProvenanceUnverified | .operationAborted
    | .cdpEndpointUnavailable | .cdpEndpointTimeout | .cdpTargetListMalformed | .cdpTargetNotFound
    | .cdpTargetAmbiguous | .cdpAttachFailed | .cdpDisconnected | .cdpNavigationFailed
    | .cdpReadinessFailed => error
    | _ => (ThrownError.ofCode .cdpAttachFailed).withCause (some error)
  | .typeError | .rangeError | .error =>
    (ThrownError.ofCode .cdpAttachFailed).withCause (some error)

/-- The error of an attached session that could not be initialized under its lease. -/
def initializeError (error : ThrownError) : ThrownError :=
  if error.isInstance .runtimeGenerationChanged || error.isInstance .runtimeProvenanceUnverified ||
      error.isInstance .operationAborted then
    error
  else (ThrownError.ofCode .cdpReadinessFailed).withCause (some error)

/-- The error of `connect` where the previous session cannot be closed. -/
def replaceError (error : ThrownError) : ThrownError :=
  (ThrownError.ofCodeMessage .cdpDisconnected
    "Failed to replace the previous CDP session cleanly.").withCause (some error)

/-- The error of `disconnect`. -/
def closeError (error : ThrownError) : ThrownError :=
  (ThrownError.ofCodeMessage .cdpDisconnected
    "Failed to close the CDP session cleanly.").withCause (some error)

/-- What the check of the session says. -/
theorem assertSessionForLease_eq_ok {m : CdpSessionManager} {session : SessionId}
    {lease : RuntimeLease} (h : m.assertSessionForLease session lease = .ok ()) :
    m.session = some session ∧ m.boundLease = some lease := by
  unfold assertSessionForLease at h
  split at h
  · cases h
  rename_i hlost
  obtain ⟨-, hsession⟩ := not_or.mp hlost
  refine ⟨not_not.mp hsession, ?_⟩
  cases hbound : m.boundLease with
  | none => simp [hbound] at h
  | some boundLease =>
    by_cases hsame : sameRuntimeLease boundLease lease = true
    · rw [(sameRuntimeLease_iff _ _).mp hsame]
    · simp [hbound, hsame] at h

end CdpSessionManager

/-- Where a call of `connect` or `disconnect` is suspended. -/
inductive ConnectionStage where
  | disposing (lease : RuntimeLease)
  | discovering (lease : RuntimeLease)
  | attaching (lease : RuntimeLease) (targetId : String)
  | initializing (lease : RuntimeLease) (targetId : String) (session : SessionId)
  | closing (error : ThrownError)
  | disconnecting
deriving DecidableEq, Repr

/-- `runReadinessSessionOperation` or `runTurnSessionOperation`. -/
inductive SessionOperationKind where
  | readiness
  | turn
deriving DecidableEq, Repr

/-- A call of one of them whose operation is pending. `abortError` is the error of its abort
listener, once that has run, and `race` the first promise that settled. -/
structure SessionOperation (α : Type) where
  kind : SessionOperationKind
  session : SessionId
  lease : RuntimeLease
  signal : Option OperationSignal
  abortError : Option ThrownError := none
  race : Option (Except ThrownError α) := none
  finished : Bool := false

/-- Whether the operation's abort listener is registered on the signal. -/
def SessionOperation.listens {α : Type} (op : SessionOperation α) (signal : OperationSignal) :
    Bool :=
  op.kind == .readiness && op.signal == some signal && !op.finished

/-- How the calls end. -/
inductive SessionEvent (α : Type) where
  | connected (outcome : Except ThrownError Unit)
  | disconnected (outcome : Except ThrownError Unit)
  | refused (error : ThrownError)
  | started (operation : ℕ)
  | returned (operation : ℕ) (result : α)
  | rejected (operation : ℕ) (error : ThrownError)

/-- A manager with its suspended calls, the runtime, the aborted signals with their reasons, and the
number of sessions that were attached. -/
structure SessionSystem (α : Type) extends CdpSessionManager where
  connection : Option ConnectionStage := none
  operations : List (SessionOperation α) := []
  sessions : ℕ := 0
  runtime : LeaseHistory := {}
  aborted : OperationSignal → Option (Option ThrownError) := fun _ => none
  log : List (SessionEvent α) := []

/-- What the environment does. An operation is named by its number. -/
inductive SessionInput (α : Type) where
  | connect
  | disconnect
  | settle (outcome : Except ThrownError Unit)
  | discovered (targetId : String)
  | disconnectEvent (session : SessionId)
  | changeRuntime (next : Option RuntimeLease)
  | run (kind : SessionOperationKind) (session : SessionId) (lease : RuntimeLease)
    (signal : Option OperationSignal)
  | operationSettled (operation : ℕ) (outcome : Except ThrownError α)
  | abort (signal : OperationSignal) (reason : Option ThrownError)
  | invalidated (operation : ℕ)
  | resume (operation : ℕ)

namespace SessionSystem

variable {α : Type}

/-- Append to the log. -/
def record (s : SessionSystem α) (event : SessionEvent α) : SessionSystem α :=
  { s with log := s.log ++ [event] }

/-- `throwIfAborted(signal)`. -/
def throwIfAborted (s : SessionSystem α) (signal : Option OperationSignal) :
    Except ThrownError Unit :=
  match signal.bind s.aborted with
  | none => .ok ()
  | some reason => .error (abortedError reason)

/-! ## `connect` and `disconnect` -/

/-- The manager's fields without a session. -/
def forget (s : SessionSystem α) : SessionSystem α :=
  { s with toCdpSessionManager := s.toCdpSessionManager.forget }

/-- `connect` is over. -/
def endConnect (s : SessionSystem α) (outcome : Except ThrownError Unit) : SessionSystem α :=
  { s with connection := none, log := s.log ++ [.connected outcome] }

/-- `connect` fails. -/
def failConnect (s : SessionSystem α) (error : ThrownError) : SessionSystem α :=
  { s with currentState := .FAILED }.endConnect
    (.error (CdpSessionManager.attachError error))

/-- The start of `connect`. -/
def connect (s : SessionSystem α) : SessionSystem α :=
  match s.runtime.getCurrentRuntimeLease with
  | .error error => s.endConnect (.error error)
  | .ok lease =>
    if s.isConnectedFor lease then s.endConnect (.ok ())
    else { s.forget with connection := some (.disposing lease) }

/-- The `await` of a suspended `connect` or `disconnect` settles. An attach that succeeds makes a
new session. -/
def settle (s : SessionSystem α) (stage : ConnectionStage) (outcome : Except ThrownError Unit) :
    Option (SessionSystem α) :=
  match stage, outcome with
  | .disposing _, .error error =>
    some ({ s with currentState := .FAILED }.endConnect
      (.error (CdpSessionManager.replaceError error)))
  | .disposing lease, .ok _ =>
    some { s with currentState := .DISCOVERING, connection := some (.discovering lease) }
  | .discovering _, .error error => some (s.failConnect error)
  | .discovering _, .ok _ => none
  | .attaching _ _, .error error => some (s.failConnect error)
  | .attaching lease targetId, .ok _ =>
    let session := s.sessions
    let s := { s with sessions := s.sessions + 1 }
    match s.runtime.assertRuntimeLeaseCurrent lease with
    | .ok _ => some { s with connection := some (.initializing lease targetId session) }
    | .error error =>
      some { s with connection := some (.closing (CdpSessionManager.initializeError error)) }
  | .initializing lease targetId session, .ok _ =>
    match s.runtime.assertRuntimeLeaseCurrent lease with
    | .ok _ =>
      let manager := s.toCdpSessionManager.install lease targetId session
      some ({ s with toCdpSessionManager := manager }.endConnect (.ok ()))
    | .error error =>
      some { s with connection := some (.closing (CdpSessionManager.initializeError error)) }
  | .initializing _ _ _, .error error =>
    some { s with connection := some (.closing (CdpSessionManager.initializeError error)) }
  | .closing error, _ => some (s.failConnect error)
  | .disconnecting, outcome =>
    some { s with
      currentState := .DISCONNECTED
      connection := none
      log := s.log ++ [.disconnected (outcome.mapError CdpSessionManager.closeError)] }

/-- The target of `connect` is found. -/
def discovered (s : SessionSystem α) (lease : RuntimeLease) (targetId : String) :
    SessionSystem α :=
  match s.runtime.assertRuntimeLeaseCurrent lease with
  | .error error => s.failConnect error
  | .ok _ => { s with currentState := .ATTACHING, connection := some (.attaching lease targetId) }

/-! ## Operations of the session -/

/-- `assertSessionForLeaseCurrent`. -/
def assertSessionForLeaseCurrent (s : SessionSystem α) (session : SessionId)
    (lease : RuntimeLease) : Except ThrownError Unit := do
  s.runtime.assertRuntimeLeaseCurrent lease
  s.assertSessionForLease session lease

/-- The checks before an operation. -/
def admitOperation (s : SessionSystem α) (session : SessionId) (lease : RuntimeLease)
    (signal : Option OperationSignal) : Except ThrownError Unit := do
  s.assertSessionForLeaseCurrent session lease
  s.throwIfAborted signal

/-- The start of `runReadinessSessionOperation` or `runTurnSessionOperation`. -/
def runSessionOperation (s : SessionSystem α) (kind : SessionOperationKind) (session : SessionId)
    (lease : RuntimeLease) (signal : Option OperationSignal) : SessionSystem α :=
  match s.admitOperation session lease signal with
  | .error error => s.record (.refused error)
  | .ok _ =>
    { s with
      operations := s.operations ++ [{ kind, session, lease, signal }]
      log := s.log ++ [.started s.operations.length] }

/-- `invalidateSessionAfterInFlightAbort`, up to its `await`, for the operations that listen on the
signal: where the session of one of them is still the manager's, it is forgotten. -/
def invalidateSession (s : SessionSystem α) (signal : OperationSignal) : SessionSystem α :=
  if s.operations.any fun op => op.listens signal && s.session == some op.session then
    { s.forget with currentState := .DISCONNECTED }
  else s

/-- The signal is aborted, and its listeners run: each keeps its error and invalidates its
session. -/
def abort (s : SessionSystem α) (signal : OperationSignal) (reason : Option ThrownError) :
    SessionSystem α :=
  { s.invalidateSession signal with
    aborted := Function.update s.aborted signal (some reason)
    operations := s.operations.map fun op =>
      if op.listens signal then { op with abortError := some (abortedError reason) } else op }

/-- What a call does once the operation has settled. -/
def completeReadiness (s : SessionSystem α) (op : SessionOperation α)
    (outcome : Except ThrownError α) : Except ThrownError α := do
  let result ← outcome
  s.throwIfAborted op.signal
  s.assertSessionForLeaseCurrent op.session op.lease
  pure result

/-- The same for a turn operation, whose `catch` looks at the session again. -/
def completeTurn (s : SessionSystem α) (op : SessionOperation α)
    (outcome : Except ThrownError α) : Except ThrownError α :=
  match s.completeReadiness op outcome with
  | .ok result => .ok result
  | .error error => do
    s.assertSessionForLeaseCurrent op.session op.lease
    throw error

/-- What a call does once the operation has settled, by its kind. -/
def complete (s : SessionSystem α) (op : SessionOperation α) (outcome : Except ThrownError α) :
    Except ThrownError α :=
  match op.kind with
  | .readiness => s.completeReadiness op outcome
  | .turn => s.completeTurn op outcome

/-- An operation changes. -/
def setOperation (s : SessionSystem α) (operation : ℕ) (op : SessionOperation α) :
    SessionSystem α :=
  { s with operations := s.operations.set operation op }

/-- The call returns or rejects. -/
def finish (s : SessionSystem α) (operation : ℕ) (op : SessionOperation α)
    (outcome : Except ThrownError α) : SessionSystem α :=
  (s.setOperation operation { op with finished := true }).record
    (match s.complete op outcome with
    | .ok result => .returned operation result
    | .error error => .rejected operation error)

/-- The system after an input, if the input can occur. -/
def step (s : SessionSystem α) : SessionInput α → Option (SessionSystem α)
  | .connect => if s.connection = none then some s.connect else none
  | .disconnect =>
    if s.connection = none then some { s.forget with connection := some .disconnecting } else none
  | .settle outcome =>
    match s.connection with
    | some stage => s.settle stage outcome
    | none => none
  | .discovered targetId =>
    match s.connection with
    | some (.discovering lease) => some (s.discovered lease targetId)
    | _ => none
  | .disconnectEvent session =>
    if session < s.sessions then
      some { s with toCdpSessionManager := s.toCdpSessionManager.disconnectCallback session }
    else none
  | .changeRuntime next => some { s with runtime := s.runtime.change next }
  | .run kind session lease signal => some (s.runSessionOperation kind session lease signal)
  | .operationSettled operation outcome =>
    match s.operations[operation]? with
    | some op =>
      some (s.setOperation operation { op with race := some (op.race.getD outcome) })
    | none => none
  | .abort signal reason =>
    match s.aborted signal with
    | some _ => some s
    | none => some (s.abort signal reason)
  | .invalidated operation =>
    match s.operations[operation]? with
    | some op =>
      match op.abortError with
      | some error =>
        some (s.setOperation operation { op with race := some (op.race.getD (.error error)) })
      | none => none
    | none => none
  | .resume operation =>
    match s.operations[operation]? with
    | some op =>
      match op.race, op.finished with
      | some outcome, false => some (s.finish operation op outcome)
      | _, _ => none
    | none => none

end SessionSystem

end Threadwire
