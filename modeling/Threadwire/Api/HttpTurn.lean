import Threadwire.Api.PublicError
import Threadwire.Machine.Runs
import Threadwire.Turn.Types

/-!
# A turn over HTTP

`handleAdmittedTurn` of `api/ThreadwireHttpServer.ts` with the functions it uses, as a machine: the
inputs are what the controller, the request and the response do, the log is what the handler does.
The two phases of a turn's completion meet here: the controller's result, and the delivery of the
`COMPLETED` frame to the client, after which the turn is confirmed or rolled back.
-/

namespace Threadwire

/-- What the handler reads of a response. -/
structure ResponseState where
  destroyed : Bool := false
  writableEnded : Bool := false
  writableLength : ℕ := 0
deriving DecidableEq, Repr

/-- `response.destroyed || response.writableEnded`. -/
def ResponseState.down (response : ResponseState) : Bool :=
  response.destroyed || response.writableEnded

/-- What the calls of a response do to it; they are numbered, and the same call may do something
else each time. `finish` is `end`; it may throw. -/
structure ResponseSink where
  write : ℕ → ResponseState → Text → ResponseState
  finish : ℕ → ResponseState → Option ResponseState

/-- A server-sent event. -/
structure SseFrame where
  event : String
  data : Text
deriving DecidableEq, Repr

namespace SseFrame

/-- The text of a frame. -/
def text (frame : SseFrame) : Text :=
  Text.of "event: " ++ Text.of frame.event ++ Text.of "\ndata: " ++ frame.data ++ Text.of "\n\n"

/-- `sseEventByteLength`. -/
def sseEventByteLength (frame : SseFrame) : ℕ := Text.byteLength frame.text

/-- The frame of a text event, which has the name of the event's type. -/
def ofText (event : String) (text : Text) : SseFrame :=
  { event, data := Text.of "\x7b\"text\":" ++ Text.quote text ++ Text.of "\x7d" }

/-- The frame that completes a turn. -/
def completed (result : TurnResult) : SseFrame where
  event := "COMPLETED"
  data := Text.of "\x7b\"threadHandle\":" ++ Text.quote (Text.of result.threadHandle) ++
    Text.of ",\"newlyRegistered\":" ++ boolText result.created ++ Text.of "\x7d"

/-- The frame of an error. -/
def ofError (error : ApiError) : SseFrame := { event := "ERROR", data := publicErrorText error }

end SseFrame

/-- How far the handler is. -/
inductive HttpPhase where
  | checking
  | reading
  | executing
  | streaming
  | finishing
  | settled
deriving DecidableEq, Repr

/-- What the handler does. -/
inductive HttpAction where
  | wroteJson (statusCode : ℕ)
  | executeTurn (request : ControllerTurnRequest)
  | openedSse
  | wroteSse (frame : SseFrame)
  | refusedSse (frame : SseFrame)
  | ended
  | finishedSse (delivered : Bool)
  | confirmTurnCompletion (result : TurnResult)
  | rollbackTurnCompletion (result : TurnResult)
deriving DecidableEq, Repr

/-- The handler's variables, and the log. `calls` counts the calls of the response. -/
structure HttpTurn where
  phase : HttpPhase := .checking
  response : ResponseState := {}
  aborted : Bool := false
  domainCompleted : Bool := false
  transportOpen : Bool := true
  streamOpened : Bool := false
  pendingEventBytes : ℕ := 0
  pendingEvents : List SseFrame := []
  result : Option TurnResult := none
  completionSettled : Bool := false
  calls : ℕ := 0
  log : List HttpAction := []
deriving DecidableEq, Repr

/-- What can happen to the handler. -/
inductive HttpInput where
  | headers (contentType contentEncoding : Option Text)
  | bodyRead (body : Except ApiError ControllerTurnRequest)
  | event (event : ResponseStreamEvent)
  | returned
  | threw (error : ApiError)
  | resolved (result : TurnResult)
  | rejected (error : ApiError)
  | requestAborted
  | responseFinish
  | responseClose
  | responseError
  | transport (response : ResponseState)

namespace HttpTurn

/-- The test of the content type: what is before the first semicolon is the media type. -/
def isJsonContentType (contentType : Option Text) : Bool :=
  match contentType with
  | none => false
  | some value =>
    Text.toLowerCase (Text.trim (value.takeWhile (· != 0x3B))) == Text.of "application/json"

/-- Append to the log. -/
def record (action : HttpAction) (s : HttpTurn) : HttpTurn := { s with log := s.log ++ [action] }

/-- `abortController.abort()`. -/
def abort (s : HttpTurn) : HttpTurn := { s with aborted := true }

section Handler

variable (maxSseBufferBytes : ℕ) (sink : ResponseSink)

/-- `response.end()`; a throw leaves the response as it is. -/
def endResponse (s : HttpTurn) : HttpTurn :=
  { s with
    response := (sink.finish s.calls s.response).getD s.response, calls := s.calls + 1 }
    |>.record .ended

/-- `writeJson`, before any header was sent. -/
def writeJson (statusCode : ℕ) (s : HttpTurn) : HttpTurn :=
  (s.record (.wroteJson statusCode)).endResponse sink

/-- Whether `writeSseEvent` accepts a frame. -/
def accepts (frame : SseFrame) (s : HttpTurn) : Bool :=
  s.response.writableLength + frame.sseEventByteLength ≤ maxSseBufferBytes

/-- The response after a frame was written to it. -/
def written (frame : SseFrame) (s : HttpTurn) : ResponseState :=
  sink.write s.calls s.response frame.text

/-- `writeSseEvent`. -/
def writeSseEvent (frame : SseFrame) (s : HttpTurn) : Bool × HttpTurn :=
  if s.accepts maxSseBufferBytes frame then
    (true, { s with response := s.written sink frame, calls := s.calls + 1 }
      |>.record (.wroteSse frame))
  else (false, s.record (.refusedSse frame))

/-- `deliverEvent`. -/
def deliverEvent (frame : SseFrame) (s : HttpTurn) : HttpTurn :=
  let (accepted, s) := s.writeSseEvent maxSseBufferBytes sink frame
  if accepted then s else { s with transportOpen := false }.abort

/-- The part of `listener` for the events that are sent on. -/
def sendOn (frame : SseFrame) (s : HttpTurn) : HttpTurn :=
  if s.streamOpened then s.deliverEvent maxSseBufferBytes sink frame
  else if maxSseBufferBytes < s.pendingEventBytes + frame.sseEventByteLength then
    { s with transportOpen := false }.abort
  else
    { s with
      pendingEventBytes := s.pendingEventBytes + frame.sseEventByteLength
      pendingEvents := s.pendingEvents ++ [frame] }

/-- `listener`. -/
def listener (event : ResponseStreamEvent) (s : HttpTurn) : HttpTurn :=
  if !s.transportOpen || s.response.down then s
  else
    match event with
    | .completed => { s with domainCompleted := true }
    | .textDelta text => s.sendOn maxSseBufferBytes sink (.ofText "TEXT_DELTA" text)
    | .finalText text => s.sendOn maxSseBufferBytes sink (.ofText "FINAL_TEXT" text)

/-- The loop over the events that came before the stream was open. -/
def deliverPending (s : HttpTurn) : List SseFrame → HttpTurn
  | [] => s
  | frame :: frames =>
    if !s.transportOpen then s
    else deliverPending (s.deliverEvent maxSseBufferBytes sink frame) frames

/-- From `openSse` to the `await` of the turn. -/
def openStream (s : HttpTurn) : HttpTurn :=
  let s := { s with streamOpened := true }.record .openedSse
  { s.deliverPending maxSseBufferBytes sink s.pendingEvents with
    pendingEvents := [], phase := .streaming }

/-- `rollbackCompletion`. -/
def rollbackCompletion (s : HttpTurn) : HttpTurn :=
  match s.result with
  | none => s
  | some result =>
    if s.completionSettled then s
    else { s with completionSettled := true }.record (.rollbackTurnCompletion result)

/-- The `finally` of the handler. -/
def conclude (s : HttpTurn) : HttpTurn :=
  let s := s.rollbackCompletion
  let s := if !s.response.down then s.endResponse sink else s
  { s with phase := .settled }

/-- The `catch` of the handler, and the `finally`. -/
def failTurn (error : ApiError) (s : HttpTurn) : HttpTurn :=
  let s := s.rollbackCompletion
  let s :=
    if s.transportOpen && !s.response.down then
      (s.writeSseEvent maxSseBufferBytes sink (.ofError error)).2
    else s
  s.conclude sink

/-- The end of the handler's `try`: confirm or roll back. -/
def settleCompletion (result : TurnResult) (s : HttpTurn) : HttpTurn :=
  let s :=
    if s.transportOpen then
      { s with completionSettled := true }.record (.confirmTurnCompletion result)
    else s.rollbackCompletion
  s.conclude sink

/-- What follows `finishSseResponse`. -/
def finishedSse (result : TurnResult) (delivered : Bool) (s : HttpTurn) : HttpTurn :=
  { s with transportOpen := delivered }.record (.finishedSse delivered)
    |>.settleCompletion sink result

/-- `finishSseResponse`, up to its `await`. -/
def finishSseResponse (result : TurnResult) (s : HttpTurn) : HttpTurn :=
  if s.response.down then s.finishedSse sink result false
  else
    match sink.finish s.calls s.response with
    | none => s.finishedSse sink result false
    | some response =>
      { s with response, calls := s.calls + 1, phase := .finishing }.record .ended

/-- Write the frame that completes the turn. -/
def writeCompleted (result : TurnResult) (s : HttpTurn) : HttpTurn :=
  if s.transportOpen && !s.response.down then
    let (accepted, s) := s.writeSseEvent maxSseBufferBytes sink (.completed result)
    { s with transportOpen := accepted }
  else s

/-- What follows the `await` of the turn, when it resolved. -/
def turnResolved (result : TurnResult) (s : HttpTurn) : HttpTurn :=
  let s := { s with result := some result }
  if !s.domainCompleted then
    s.failTurn maxSseBufferBytes sink
      (.thrown (.plain "Turn completed without the public completion boundary."))
  else
    let s := s.writeCompleted maxSseBufferBytes sink result
    if s.transportOpen && !s.response.down then s.finishSseResponse sink result
    else s.settleCompletion sink result

/-- The checks of the request's headers. -/
def checkHeaders (contentType contentEncoding : Option Text) (s : HttpTurn) : HttpTurn :=
  if !isJsonContentType contentType then { s.writeJson sink 415 with phase := .settled }
  else if contentEncoding ≠ none ∧ contentEncoding ≠ some (Text.of "identity") then
    { s.writeJson sink 415 with phase := .settled }
  else { s with phase := .reading }

/-- The status of an error that reading the body threw. -/
def bodyErrorStatus : ApiError → ℕ
  | .request _ statusCode => statusCode
  | _ => 400

/-- What follows the reading of the body. -/
def bodyRead (body : Except ApiError ControllerTurnRequest) (s : HttpTurn) : HttpTurn :=
  match body with
  | .error error =>
    if !s.response.down then { s.writeJson sink (bodyErrorStatus error) with phase := .settled }
    else { s with phase := .settled }
  | .ok request =>
    if s.aborted || s.response.down then { s with phase := .settled }
    else { s.record (.executeTurn request) with phase := .executing }

/-- `executeTurn` threw instead of returning a promise. -/
def executionThrew (error : ApiError) (s : HttpTurn) : HttpTurn :=
  if !s.response.down then { s.writeJson sink (preStreamStatus error) with phase := .settled }
  else { s with phase := .settled }

/-- Whether `onRequestAborted` and `onResponseClose` are attached. -/
def listens (s : HttpTurn) : Bool := s.phase != .checking && s.phase != .settled

/-- `onRequestAborted`. -/
def onRequestAborted (s : HttpTurn) : HttpTurn := if s.listens then s.abort else s

/-- `onResponseClose`. -/
def onResponseClose (s : HttpTurn) : HttpTurn :=
  if s.listens && !s.response.writableEnded then s.abort else s

/-- The response's events settle `finishSseResponse`, if it waits for them. -/
def onResponseEvent (delivered : Bool) (s : HttpTurn) : HttpTurn :=
  match s.phase, s.result with
  | .finishing, some result => s.finishedSse sink result delivered
  | _, _ => s

/-- One input; `none` where it cannot occur. -/
def step (s : HttpTurn) : HttpInput → Option HttpTurn
  | .headers contentType contentEncoding =>
    if s.phase = .checking then some (s.checkHeaders sink contentType contentEncoding) else none
  | .bodyRead body => if s.phase = .reading then some (s.bodyRead sink body) else none
  | .event event =>
    if s.phase = .executing ∨ s.phase = .streaming then
      some (s.listener maxSseBufferBytes sink event)
    else none
  | .returned =>
    if s.phase = .executing then some (s.openStream maxSseBufferBytes sink) else none
  | .threw error => if s.phase = .executing then some (s.executionThrew sink error) else none
  | .resolved result =>
    if s.phase = .streaming then some (s.turnResolved maxSseBufferBytes sink result) else none
  | .rejected error =>
    if s.phase = .streaming then some (s.failTurn maxSseBufferBytes sink error) else none
  | .requestAborted => some s.onRequestAborted
  | .responseFinish => some (s.onResponseEvent sink true)
  | .responseClose => some (s.onResponseClose.onResponseEvent sink false)
  | .responseError => some (s.onResponseEvent sink false)
  | .transport response => some { s with response }

end Handler

end HttpTurn

end Threadwire
