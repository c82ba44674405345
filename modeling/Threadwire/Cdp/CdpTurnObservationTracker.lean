import Threadwire.Cdp.CdpResponseStreamTracker
import Threadwire.Domain.ThreadIdentity

/-!
# The turn observation tracker

`cdp/CdpTurnObservationTracker.ts` and the two helpers it uses. From the network events of a page it
finds the request that writes a turn, follows that request to its end, and hands its response to a
`CdpResponseStreamTracker`.
-/

namespace Threadwire

/-- `TurnRequestKind`. -/
inductive TurnRequestKind where
  | PREPARE
  | WRITE
deriving DecidableEq, Repr

/-- `classifyTurnRequest`; a method or a URL may be anything. -/
def classifyTurnRequest (parseUrl : UrlParser) (rawUrl : String) (method : Option String) :
    Option TurnRequestKind :=
  if method ≠ some "POST" then none
  else
    match parseUrl rawUrl with
    | none => none
    | some url =>
      if url.origin ≠ CHATGPT_ORIGIN then none
      else if url.pathname = "/backend-api/f/conversation/prepare" then some .PREPARE
      else if url.pathname = "/backend-api/f/conversation" then some .WRITE
      else none

/-- `isSuccessfulHttpStatus`; a status that is not a finite number is `none`. -/
def isSuccessfulHttpStatus (status : Option Rat) : Bool :=
  match status with
  | some status => decide (200 ≤ status ∧ status < 300)
  | none => false

/-- `CdpWriteLifecycleState`. -/
inductive CdpWriteLifecycleState where
  | ACTIVE
  | FINISHED
  | FAILED
deriving DecidableEq, Repr

/-- `CdpTurnObservationSnapshot`. -/
structure CdpTurnObservationSnapshot where
  prepareCount : ℕ
  write : Option CdpWriteLifecycleState
  response : Option CdpTurnResponseObservation
deriving DecidableEq, Repr

/-- `CdpTurnObservationHandle`: a frozen object that is compared by identity. -/
abbrev CdpTurnObservationHandle := ℕ

/-- `ActiveTurnObservation`. -/
structure ActiveTurnObservation where
  handle : CdpTurnObservationHandle
  prepareCount : ℕ := 0
  writeRequestId : Option RequestId := none
  successfulResponseObserved : Option Bool := none
  selectedLegRedirected : Bool := false
  lifecycle : Option CdpWriteLifecycleState := none
  ambiguousWrite : Bool := false
  response : Option CdpResponseStreamTracker
deriving DecidableEq, Repr

/-- `CdpTurnObservationTracker`; `handles` counts the handles made so far. -/
structure CdpTurnObservationTracker where
  active : Option ActiveTurnObservation := none
  handles : ℕ := 0
deriving DecidableEq, Repr

namespace ActiveTurnObservation

/-- `observation.response?.…`. -/
def onResponse (f : CdpResponseStreamTracker → CdpResponseStreamTracker)
    (observation : ActiveTurnObservation) : ActiveTurnObservation :=
  { observation with response := observation.response.map f }

/-- The write can no longer be identified; its response is dropped. -/
def becomeAmbiguous (observation : ActiveTurnObservation) : ActiveTurnObservation :=
  { observation with ambiguousWrite := true }.onResponse .dispose

/-- `onRequestWillBeSent`, for the active observation. -/
def onRequestWillBeSent (parseUrl : UrlParser) (requestId : RequestId) (rawUrl : String)
    (method : Option String) (redirectedFromPreviousRequest : Bool)
    (observation : ActiveTurnObservation) : ActiveTurnObservation :=
  if observation.writeRequestId = some requestId then
    if observation.lifecycle ≠ some .ACTIVE then observation.becomeAmbiguous
    else if !redirectedFromPreviousRequest then observation.becomeAmbiguous
    else
      { observation with selectedLegRedirected := true, successfulResponseObserved := some false }
        |>.onResponse (.fail .INCOMPLETE)
  else
    match classifyTurnRequest parseUrl rawUrl method with
    | some .PREPARE => { observation with prepareCount := observation.prepareCount + 1 }
    | none => observation
    | some .WRITE =>
      if observation.writeRequestId = none then
        { observation with
          writeRequestId := some requestId
          successfulResponseObserved := none
          selectedLegRedirected := false
          lifecycle := some .ACTIVE }
          |>.onResponse (.select requestId)
      else observation.becomeAmbiguous

/-- `onResponseReceived`, for the active observation. -/
def onResponseReceived (requestId : RequestId) (status : Option Rat)
    (network : StreamResourceContent) (observation : ActiveTurnObservation) :
    ActiveTurnObservation :=
  if observation.writeRequestId ≠ some requestId ∨ observation.lifecycle ≠ some .ACTIVE ∨
      observation.selectedLegRedirected then
    observation
  else
    let successful := isSuccessfulHttpStatus status
    let observation := { observation with successfulResponseObserved := some successful }
    if successful then observation.onResponse (.begin requestId network) else observation

/-- `onRequestSettled`, for the active observation. -/
def onRequestSettled (limits : ConsumerLimits) (requestId : RequestId) (failed : Bool)
    (observation : ActiveTurnObservation) : ActiveTurnObservation :=
  if observation.writeRequestId ≠ some requestId ∨ observation.lifecycle ≠ some .ACTIVE then
    observation
  else
    let lifecycle :=
      if failed || observation.selectedLegRedirected ||
          observation.successfulResponseObserved != some true then
        CdpWriteLifecycleState.FAILED
      else .FINISHED
    { observation with lifecycle := some lifecycle }
      |>.onResponse (.onTransportSettled limits requestId
        (failed || lifecycle == CdpWriteLifecycleState.FAILED))

end ActiveTurnObservation

namespace CdpTurnObservationTracker

/-- The error of an ambiguous write. -/
def ambiguousWriteError : ThrownError :=
  .plain "The scoped turn write identity became ambiguous or unsafe."

/-- `armTurnObservation`; `dataObservationAvailable` is what the callback of that name says. -/
def armTurnObservation (responseStream dataObservationAvailable : Bool)
    (t : CdpTurnObservationTracker) :
    Except ThrownError (CdpTurnObservationHandle × CdpTurnObservationTracker) :=
  match t.active with
  | some _ => .error (.plain "A CDP turn observation is already active.")
  | none =>
    .ok (t.handles,
      { active := some
          { handle := t.handles
            response := if responseStream then some { dataObservationAvailable } else none }
        handles := t.handles + 1 })

/-- `require`. -/
def require (handle : CdpTurnObservationHandle) (t : CdpTurnObservationTracker) :
    Except ThrownError ActiveTurnObservation :=
  match t.active with
  | some observation =>
    if observation.handle = handle then .ok observation
    else .error (.plain "CDP turn observation handle is not active.")
  | none => .error (.plain "CDP turn observation handle is not active.")

/-- `getTurnObservation`. -/
def getTurnObservation (handle : CdpTurnObservationHandle) (t : CdpTurnObservationTracker) :
    Except ThrownError CdpTurnObservationSnapshot := do
  let observation ← t.require handle
  if observation.ambiguousWrite then .error ambiguousWriteError
  else
    .ok
      { prepareCount := observation.prepareCount
        write := if observation.writeRequestId.isNone then none else observation.lifecycle
        response := observation.response.map CdpResponseStreamTracker.snapshot }

/-- Change the active observation. -/
def update (f : ActiveTurnObservation → ActiveTurnObservation) (t : CdpTurnObservationTracker) :
    CdpTurnObservationTracker :=
  { t with active := t.active.map f }

/-- `takeTurnResponseEvents`. -/
def takeTurnResponseEvents (handle : CdpTurnObservationHandle) (t : CdpTurnObservationTracker) :
    Except ThrownError (List NormalizedResponseStreamEvent × CdpTurnObservationTracker) := do
  let observation ← t.require handle
  match observation.response with
  | none => .ok ([], t)
  | some response => .ok (response.drain.1, t.update (·.onResponse fun r => r.drain.2))

/-- `discardTurnResponse`. -/
def discardTurnResponse (handle : CdpTurnObservationHandle) (t : CdpTurnObservationTracker) :
    Except ThrownError CdpTurnObservationTracker := do
  let _ ← t.require handle
  .ok (t.update (·.onResponse .discard))

/-- `releaseTurnObservation`; the response tracker is disposed of with its observation. -/
def releaseTurnObservation (handle : CdpTurnObservationHandle) (t : CdpTurnObservationTracker) :
    CdpTurnObservationTracker :=
  match t.active with
  | some observation => if observation.handle = handle then { t with active := none } else t
  | none => t

/-! ## Runs -/

/-- What happens to an armed tracker: the network's events, the answers to `streamResourceContent`,
and the holder's calls. -/
inductive ObservationAction where
  | requestWillBeSent (requestId : RequestId) (rawUrl : String) (method : Option String)
      (redirectedFromPreviousRequest : Bool)
  | responseReceived (requestId : RequestId) (status : Option Rat)
      (network : StreamResourceContent)
  | dataReceived (requestId : RequestId) (data : Option Text)
  | requestSettled (requestId : RequestId) (failed : Bool)
  | activated (requestId : RequestId) (bufferedData : Option Text)
  | activationRejected (requestId : RequestId)
  | takeEvents
  | discard
deriving DecidableEq, Repr

/-- An action of the active response tracker, where it is possible. -/
def respond (limits : ConsumerLimits) (a : CdpResponseStreamTracker.TrackerAction)
    (t : CdpTurnObservationTracker) : Option CdpTurnObservationTracker := do
  let observation ← t.active
  let response ← observation.response
  let run ← CdpResponseStreamTracker.TrackerRun.step limits { tracker := response } a
  pure { t with active := some { observation with response := some run.tracker } }

/-- One action. -/
def step (parseUrl : UrlParser) (limits : ConsumerLimits) (t : CdpTurnObservationTracker) :
    ObservationAction → Option CdpTurnObservationTracker
  | .requestWillBeSent requestId rawUrl method redirected =>
    some (t.update (·.onRequestWillBeSent parseUrl requestId rawUrl method redirected))
  | .responseReceived requestId status network =>
    some (t.update (·.onResponseReceived requestId status network))
  | .dataReceived requestId data =>
    some (t.update (·.onResponse (.onData limits requestId data)))
  | .requestSettled requestId failed =>
    some (t.update (·.onRequestSettled limits requestId failed))
  | .activated requestId bufferedData => t.respond limits (.activated requestId bufferedData)
  | .activationRejected requestId => t.respond limits (.activationRejected requestId)
  | .takeEvents => some (t.update (·.onResponse fun r => r.drain.2))
  | .discard => some (t.update (·.onResponse .discard))

end CdpTurnObservationTracker

end Threadwire
