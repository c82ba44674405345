import Threadwire.Machine.Runs
import Threadwire.Response.ResponseStreamConsumer

/-!
# The response stream tracker

`cdp/CdpResponseStreamTracker.ts`: it follows the response of one request. The data of the response
arrives as network events, but what arrived before the stream was asked for is in the result of
`streamResourceContent`, which comes later. Live data is queued until then.

`activations` are the calls of `streamResourceContent` whose promises have not settled. They belong
to the source's runtime, not to the class.
-/

namespace Threadwire

/-- The ids of network requests. -/
abbrev RequestId := String

/-- `CdpResponseStreamLifecycleState`. -/
inductive CdpResponseStreamLifecycleState where
  | PENDING
  | STREAMING
  | COMPLETED
  | FAILED
deriving DecidableEq, Repr

/-- `CdpResponseStreamFailureKind`. -/
inductive CdpResponseStreamFailureKind where
  | UNAVAILABLE
  | ACTIVATION_FAILED
  | PARSE_FAILED
  | INCOMPLETE
  | BUFFER_OVERFLOW
  | CONSUMER_STOPPED
deriving DecidableEq, Repr

/-- `CdpTurnResponseObservation`. -/
structure CdpTurnResponseObservation where
  lifecycle : CdpResponseStreamLifecycleState
  failure : Option CdpResponseStreamFailureKind
deriving DecidableEq, Repr

/-- What the network domain does when `begin` looks for `streamResourceContent` and calls it. -/
inductive StreamResourceContent where
  | missing
  | throws
  | promises
deriving DecidableEq, Repr

/-- `CdpResponseStreamTracker`. -/
structure CdpResponseStreamTracker where
  dataObservationAvailable : Bool := true
  selectedRequestId : Option RequestId := none
  lifecycle : CdpResponseStreamLifecycleState := .PENDING
  failure : Option CdpResponseStreamFailureKind := none
  consumer : Option ResponseStreamConsumer := some {}
  activationPending : Bool := false
  activated : Bool := false
  transportSettledWhileActivationPending : Bool := false
  pendingLiveData : List Text := []
  pendingLiveBase64Chars : ℕ := 0
  disposed : Bool := false
  activations : List RequestId := []
deriving DecidableEq, Repr

namespace CdpResponseStreamTracker

def MAX_PENDING_LIVE_BASE64_CHARS : ℕ := 2796204
def MAX_PENDING_LIVE_CHUNKS : ℕ := 1024

/-- `isCurrent`. -/
def isCurrent (t : CdpResponseStreamTracker) (requestId : RequestId) : Bool :=
  !t.disposed && t.selectedRequestId == some requestId

/-- `isTerminal`. -/
def isTerminal (t : CdpResponseStreamTracker) : Bool :=
  t.lifecycle == .FAILED || t.lifecycle == .COMPLETED

/-- `snapshot`. -/
def snapshot (t : CdpResponseStreamTracker) : CdpTurnResponseObservation :=
  { lifecycle := t.lifecycle, failure := t.failure }

/-- `select`. -/
def select (requestId : RequestId) (t : CdpResponseStreamTracker) : CdpResponseStreamTracker :=
  if !t.disposed && t.selectedRequestId.isNone then { t with selectedRequestId := some requestId }
  else t

/-- `fail`. -/
def fail (failure : CdpResponseStreamFailureKind) (t : CdpResponseStreamTracker) :
    CdpResponseStreamTracker :=
  if t.disposed || t.lifecycle == .COMPLETED then t
  else
    { t with
      lifecycle := .FAILED
      failure := some failure
      consumer := t.consumer.map ResponseStreamConsumer.stop
      activationPending := false
      activated := false
      pendingLiveData := []
      pendingLiveBase64Chars := 0 }

/-- `begin`. -/
def begin (requestId : RequestId) (network : StreamResourceContent)
    (t : CdpResponseStreamTracker) : CdpResponseStreamTracker :=
  if !t.isCurrent requestId || t.lifecycle != .PENDING || t.activationPending || t.activated then t
  else if !t.dataObservationAvailable || network == .missing then t.fail .UNAVAILABLE
  else if network == .throws then { t with activationPending := true }.fail .ACTIVATION_FAILED
  else { t with activationPending := true, activations := t.activations ++ [requestId] }

section Consume

variable (limits : ConsumerLimits)

/-- The `catch` of `consumeBase64` and `finishConsumer`. -/
def failWith (kind : ResponseStreamConsumerFailureKind) (t : CdpResponseStreamTracker) :
    CdpResponseStreamTracker :=
  match kind with
  | .bufferOverflow => t.fail .BUFFER_OVERFLOW
  | .parseFailed => t.fail .PARSE_FAILED

/-- `consumeBase64`. -/
def consumeBase64 (data : Text) (t : CdpResponseStreamTracker) : CdpResponseStreamTracker :=
  match t.consumer with
  | none => t
  | some consumer =>
    match consumer.pushBase64 limits data with
    | (.error kind, consumer) => { t with consumer := some consumer }.failWith kind
    | (.ok (), consumer) =>
      if consumer.completedState then
        { t with
          consumer := some consumer
          lifecycle := .COMPLETED
          failure := none
          pendingLiveData := []
          pendingLiveBase64Chars := 0 }
      else { t with consumer := some consumer }

/-- `finishConsumer`. -/
def finishConsumer (t : CdpResponseStreamTracker) : CdpResponseStreamTracker :=
  match t.consumer with
  | none => t.fail .INCOMPLETE
  | some consumer =>
    match consumer.finish limits with
    | (.error kind, consumer) => { t with consumer := some consumer }.failWith kind
    | (.ok (), consumer) =>
      if consumer.completedState then
        { t with consumer := some consumer, lifecycle := .COMPLETED, failure := none }
      else { t with consumer := some consumer }.fail .INCOMPLETE

/-- `onData`; an event need not carry data. -/
def onData (requestId : RequestId) (data : Option Text) (t : CdpResponseStreamTracker) :
    CdpResponseStreamTracker :=
  match data with
  | none => t
  | some data =>
    if !t.isCurrent requestId || t.lifecycle == .FAILED || t.lifecycle == .COMPLETED then t
    else if t.activationPending && !t.activated then
      if MAX_PENDING_LIVE_CHUNKS ≤ t.pendingLiveData.length then t.fail .BUFFER_OVERFLOW
      else if MAX_PENDING_LIVE_BASE64_CHARS < t.pendingLiveBase64Chars + data.length then
        { t with pendingLiveBase64Chars := t.pendingLiveBase64Chars + data.length }.fail
          .BUFFER_OVERFLOW
      else
        { t with
          pendingLiveBase64Chars := t.pendingLiveBase64Chars + data.length
          pendingLiveData := t.pendingLiveData ++ [data] }
    else if t.activated then t.consumeBase64 limits data
    else t

/-- `onTransportSettled`. -/
def onTransportSettled (requestId : RequestId) (failed : Bool) (t : CdpResponseStreamTracker) :
    CdpResponseStreamTracker :=
  if !t.isCurrent requestId || t.lifecycle == .COMPLETED then t
  else if failed then t.fail .INCOMPLETE
  else if t.activationPending then { t with transportSettledWhileActivationPending := true }
  else
    match t.lifecycle with
    | .STREAMING => t.finishConsumer limits
    | .PENDING => t.fail .INCOMPLETE
    | .COMPLETED | .FAILED => t

/-- The loop of `completeActivation` over the data that arrived meanwhile. -/
def consumePending (t : CdpResponseStreamTracker) : List Text → CdpResponseStreamTracker
  | [] => t
  | data :: pending =>
    let t := t.consumeBase64 limits data
    if t.isTerminal then t else consumePending t pending

/-- The end of `completeActivation`, after the buffered data. -/
def replayPending (t : CdpResponseStreamTracker) : CdpResponseStreamTracker :=
  if t.isTerminal then { t with pendingLiveData := [], pendingLiveBase64Chars := 0 }
  else
    let pending := t.pendingLiveData
    let t := consumePending limits { t with pendingLiveData := [], pendingLiveBase64Chars := 0 }
      pending
    if t.transportSettledWhileActivationPending && t.lifecycle == .STREAMING then
      t.finishConsumer limits
    else t

/-- The part of `completeActivation` for the data that came with the activation. -/
def consumeBuffered (bufferedData : Option Text) (t : CdpResponseStreamTracker) :
    CdpResponseStreamTracker :=
  match bufferedData with
  | some data => if 0 < data.length then t.consumeBase64 limits data else t
  | none => t

/-- `completeActivation`. -/
def completeActivation (requestId : RequestId) (bufferedData : Option Text)
    (t : CdpResponseStreamTracker) : CdpResponseStreamTracker :=
  if !t.isCurrent requestId then t
  else if t.lifecycle == .FAILED then { t with activationPending := false }
  else
    { t with activationPending := false, activated := true, lifecycle := .STREAMING }
      |>.consumeBuffered limits bufferedData
      |>.replayPending limits

end Consume

/-- The handler of a rejected activation. -/
def rejectActivation (requestId : RequestId) (t : CdpResponseStreamTracker) :
    CdpResponseStreamTracker :=
  if t.isCurrent requestId then t.fail .ACTIVATION_FAILED else t

/-- `drain`. -/
def drain (t : CdpResponseStreamTracker) :
    List NormalizedResponseStreamEvent × CdpResponseStreamTracker :=
  match t.consumer with
  | none => ([], t)
  | some consumer =>
    match consumer.drain with
    | (.ok events, consumer) => (events, { t with consumer := some consumer })
    | (.error _, consumer) => ([], { t with consumer := some consumer })

/-- `discard`. -/
def discard (t : CdpResponseStreamTracker) : CdpResponseStreamTracker :=
  if t.disposed then t
  else
    let t := { t with
      consumer := none
      activationPending := false
      activated := false
      pendingLiveData := []
      pendingLiveBase64Chars := 0 }
    if t.lifecycle = .COMPLETED then t
    else { t with lifecycle := .FAILED, failure := some .CONSUMER_STOPPED }

/-- `dispose`. -/
def dispose (t : CdpResponseStreamTracker) : CdpResponseStreamTracker :=
  { t with
    disposed := true
    selectedRequestId := none
    consumer := none
    activationPending := false
    activated := false
    pendingLiveData := []
    pendingLiveBase64Chars := 0 }

/-! ## Runs -/

/-- What can happen to a tracker: the calls of its methods, and the settling of an activation. -/
inductive TrackerAction where
  | select (requestId : RequestId)
  | begin (requestId : RequestId) (network : StreamResourceContent)
  | data (requestId : RequestId) (data : Option Text)
  | settled (requestId : RequestId) (failed : Bool)
  | activated (requestId : RequestId) (bufferedData : Option Text)
  | activationRejected (requestId : RequestId)
  | drain
  | fail (failure : CdpResponseStreamFailureKind)
  | discard
  | dispose
deriving DecidableEq, Repr

/-- A tracker and the events drained from it so far. -/
structure TrackerRun where
  tracker : CdpResponseStreamTracker := {}
  drained : List NormalizedResponseStreamEvent := []
deriving DecidableEq, Repr

/-- One action. A promise that has settled does not settle again. -/
def TrackerRun.step (limits : ConsumerLimits) (run : TrackerRun) :
    TrackerAction → Option TrackerRun
  | .select requestId => some { run with tracker := run.tracker.select requestId }
  | .begin requestId network => some { run with tracker := run.tracker.begin requestId network }
  | .data requestId data => some { run with tracker := run.tracker.onData limits requestId data }
  | .settled requestId failed =>
    some { run with tracker := run.tracker.onTransportSettled limits requestId failed }
  | .activated requestId bufferedData =>
    if requestId ∈ run.tracker.activations then
      some { run with
        tracker := { run.tracker with activations := run.tracker.activations.erase requestId }
          |>.completeActivation limits requestId bufferedData }
    else none
  | .activationRejected requestId =>
    if requestId ∈ run.tracker.activations then
      some { run with
        tracker := { run.tracker with activations := run.tracker.activations.erase requestId }
          |>.rejectActivation requestId }
    else none
  | .drain =>
    let (events, tracker) := run.tracker.drain
    some { tracker, drained := run.drained ++ events }
  | .fail failure => some { run with tracker := run.tracker.fail failure }
  | .discard => some { run with tracker := run.tracker.discard }
  | .dispose => some { run with tracker := run.tracker.dispose }

end CdpResponseStreamTracker

end Threadwire
