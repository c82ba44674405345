import Threadwire.Api.HttpTurn
import Threadwire.Api.RequestParsing
import Threadwire.Cdp.CdpSessionManager
import Threadwire.Machine.Family

/-!
# The HTTP server

`api/ThreadwireHttpServer.ts`: the checks of a request, the routes, the budget of requests in flight
and the handlers. The server is a family of exchanges, one for each request, that share the counter
`inflightTurns`: a request reads it when it arrives, and what happens to its exchange after that is
its own. The handler of a turn is the machine of `Api/HttpTurn.lean`; the handlers of projects and
of recoveries are one machine with the operation as a parameter.

The methods of a response do not throw here, but for the `end` of a turn's.
-/

namespace Threadwire

/-! ## Requests and answers -/

/-- What the server reads of an `IncomingMessage` before its body. -/
structure IncomingRequest where
  remoteAddress : Option Text := none
  origin : Option Text := none
  host : Option Text := none
  method : Option Text := none
  url : Option Text := none
  contentType : Option Text := none
  contentEncoding : Option Text := none
deriving DecidableEq, Repr

/-- `ControllerHealth`. -/
structure ControllerHealth where
  running : Bool
  cdp : CdpConnectionState
deriving DecidableEq, Repr

/-- A connection state as text. -/
def CdpConnectionState.text : CdpConnectionState → String
  | .DISCONNECTED => "DISCONNECTED"
  | .DISCOVERING => "DISCOVERING"
  | .ATTACHING => "ATTACHING"
  | .CONNECTED => "CONNECTED"
  | .FAILED => "FAILED"

/-- The body that answers a health request and a recovery. -/
def ControllerHealth.toJson (health : ControllerHealth) : Json.Value :=
  .object [(Text.of "classic", .string (Text.of (if health.running then "RUNNING" else "STOPPED"))),
    (Text.of "cdp", .string (Text.of health.cdp.text))]

/-- The body that answers a request for the threads. -/
def threadsJson (threads : List ThreadHandle) : Json.Value :=
  .object [(Text.of "threads", .array (threads.map fun threadHandle =>
    .object [(Text.of "threadHandle", .string (Text.of threadHandle))]))]

/-- The body that answers a project creation. -/
def projectJson (projectHandle : ProjectHandle) : Json.Value :=
  .object [(Text.of "projectHandle", .string (Text.of projectHandle))]

/-- `serializePublicError(error)`, as the body of an answer. -/
def errorJson (error : ApiError) : Json.Value :=
  let body := serializePublicError error
  .object [(Text.of "error", .object [(Text.of "code", .string (Text.of body.code.text)),
    (Text.of "message", .string (Text.of body.message)),
      (Text.of "retryable", .bool body.retryable)])]

/-- `boundaryStatus`. -/
def boundaryStatus : ApiError → ℕ
  | .request _ statusCode => statusCode
  | _ => 500

/-- The options that the constructor accepts, the Unicode tables and the URL parser of the platform,
what the calls of a response do, and whether the controller has `recoverRuntime`. The parser gives
the `pathname` and the `search` of `new URL(url, "http://127.0.0.1")`. -/
structure ServerOptions where
  maxBodyBytes : ℕ := 128 * 1024
  maxPromptBytes : ℕ := 64 * 1024
  maxInflightTurns : ℕ := 8
  maxSseBufferBytes : ℕ := 8 * 1024 * 1024
  maxBodyBytes_pos : 0 < maxBodyBytes := by decide
  maxPromptBytes_pos : 0 < maxPromptBytes := by decide
  maxInflightTurns_pos : 0 < maxInflightTurns := by decide
  maxSseBufferBytes_pos : 0 < maxSseBufferBytes := by decide
  unicode : UnicodePlatform
  parseUrl : Text → Option (Text × Text)
  sink : ResponseSink
  recoverRuntime : Bool := true

/-- The options of a server whose URL parser finds no query, and whose text is plain. -/
def ServerOptions.plain (maxInflightTurns : ℕ) (hpos : 0 < maxInflightTurns) : ServerOptions where
  maxInflightTurns := maxInflightTurns
  maxInflightTurns_pos := hpos
  unicode := { normalizeNfc := id, hasControlOrFormat := fun _ => false }
  parseUrl := fun url => some (url, [])
  sink :=
    { write := fun _ response _ => response
      finish := fun _ response => some { response with writableEnded := true } }

/-! ## The boundary -/

/-- `isAllowedHost`. -/
def isAllowedHost : Option Text → Bool
  | none => false
  | some host =>
    let name := Text.toLowerCase (host.takeWhile (· != 0x3A))
    let port := host.dropWhile (· != 0x3A)
    (name == Text.of "127.0.0.1" || name == Text.of "localhost") &&
      (port.isEmpty || (1 ≤ port.tail.length && port.tail.length ≤ 5 && port.tail.all Json.isDigit))

/-- `validateBoundary`. -/
def validateBoundary (request : IncomingRequest) : Except ApiError Unit :=
  if request.remoteAddress ≠ some (Text.of "127.0.0.1") ∧
      request.remoteAddress ≠ some (Text.of "::ffff:127.0.0.1") then
    .error (.request .API_REQUEST_REJECTED 403)
  else if request.origin ≠ none ∨ isAllowedHost request.host = false then
    .error (.request .API_REQUEST_REJECTED 403)
  else .ok ()

/-! ## Projects and recoveries -/

/-- The operations that are answered with JSON. -/
inductive JsonOperation where
  | createProject
  | recoverRuntime
deriving DecidableEq, Repr

/-- A call of the controller. -/
inductive JsonCall where
  | createProject (name : Text)
  | recoverRuntime
deriving DecidableEq, Repr

/-- The reader of the operation's request. -/
def JsonOperation.parse (unicode : UnicodePlatform) :
    JsonOperation → Json.Value → Except ApiError JsonCall
  | .createProject, value => (parseProjectRequest unicode value).map .createProject
  | .recoverRuntime, value => (parseRuntimeRecoveryRequest value).map fun _ => .recoverRuntime

/-- How far the handler is. -/
inductive JsonPhase where
  | reading
  | executing
  | settled
deriving DecidableEq, Repr

/-- What the handler does. -/
inductive JsonAction where
  | wroteJson (statusCode : ℕ) (body : Json.Value)
  | called (call : JsonCall)

/-- The variables of `handleProject` and `handleRuntimeRecovery`, and the log. -/
structure JsonHandler where
  operation : JsonOperation
  phase : JsonPhase := .reading
  response : ResponseState := {}
  headersSent : Bool := false
  requestAborted : Bool := false
  aborted : Bool := false
  calls : ℕ := 0
  log : List JsonAction := []

/-- What can happen to the handler. -/
inductive JsonInput where
  | bodyRead (body : Except ApiError JsonCall)
  | created (projectHandle : ProjectHandle)
  | recovered (health : ControllerHealth)
  | rejected (error : ApiError)
  | requestAborted
  | responseClose
  | transport (response : ResponseState)

namespace JsonHandler

variable (options : ServerOptions)

/-- `writeJson`. -/
def writeJson (statusCode : ℕ) (body : Json.Value) (s : JsonHandler) : JsonHandler :=
  if s.headersSent then s
  else
    { s with
      headersSent := true
      response := (options.sink.finish s.calls s.response).getD s.response
      calls := s.calls + 1
      log := s.log ++ [.wroteJson statusCode body] }

/-- The `finally`, but for the counter. -/
def settle (s : JsonHandler) : JsonHandler := { s with phase := .settled }

/-- The checks of the headers. -/
def checkHeaders (contentType contentEncoding : Option Text) (s : JsonHandler) : JsonHandler :=
  if HttpTurn.isJsonContentType contentType = false ∨
      (contentEncoding ≠ none ∧ contentEncoding ≠ some (Text.of "identity")) then
    (s.writeJson options 415 (errorJson (.request .API_REQUEST_INVALID 415))).settle
  else s

/-- The error that answers one of reading the body. -/
def bodyError : ApiError → ApiError
  | .request code statusCode => .request code statusCode
  | _ => requestInvalid

/-- What follows the reading of the body. -/
def bodyRead (body : Except ApiError JsonCall) (s : JsonHandler) : JsonHandler :=
  match body with
  | .error error =>
    if s.aborted || s.response.destroyed then s.settle
    else
      (s.writeJson options (HttpTurn.bodyErrorStatus error) (errorJson (bodyError error))).settle
  | .ok call =>
    if s.aborted || s.requestAborted || s.response.destroyed then s.settle
    else if s.operation = .recoverRuntime ∧ options.recoverRuntime = false then
      (s.writeJson options 500
        (errorJson (.thrown (.plain "Runtime recovery unavailable.")))).settle
    else { s with phase := .executing, log := s.log ++ [.called call] }

/-- The controller's promise rejected. -/
def rejected (error : ApiError) (s : JsonHandler) : JsonHandler :=
  if s.response.destroyed then s.settle
  else (s.writeJson options (preStreamStatus error) (errorJson error)).settle

/-- `onRequestAborted`, which is attached until the handler settles. -/
def onRequestAborted (s : JsonHandler) : JsonHandler :=
  if s.phase = .settled then { s with requestAborted := true }
  else { s with requestAborted := true, aborted := true }

/-- `onResponseClose`. -/
def onResponseClose (s : JsonHandler) : JsonHandler :=
  if s.phase = .settled ∨ s.response.writableEnded = true then s else { s with aborted := true }

/-- One input; `none` where it cannot occur. -/
def step (s : JsonHandler) : JsonInput → Option JsonHandler
  | .bodyRead body => if s.phase = .reading then some (s.bodyRead options body) else none
  | .created projectHandle =>
    if s.phase = .executing ∧ s.operation = .createProject then
      some (s.writeJson options 201 (projectJson projectHandle)).settle
    else none
  | .recovered health =>
    if s.phase = .executing ∧ s.operation = .recoverRuntime then
      some (s.writeJson options 200 health.toJson).settle
    else none
  | .rejected error => if s.phase = .executing then some (s.rejected options error) else none
  | .requestAborted => some s.onRequestAborted
  | .responseClose => some s.onResponseClose
  | .transport response => some { s with response }

end JsonHandler

/-! ## Routes -/

/-- Where a request goes. -/
inductive Route where
  | health
  | threads
  | json (operation : JsonOperation)
  | turns
  | refused (statusCode : ℕ)
deriving DecidableEq, Repr

/-- The routes of `handleRequest`, in their order. -/
def routeOf (method : Option Text) (pathname : Text) : Route :=
  if method = some (Text.of "GET") ∧ pathname = Text.of "/v1/health" then .health
  else if method = some (Text.of "GET") ∧ pathname = Text.of "/v1/threads" then .threads
  else if pathname = Text.of "/v1/runtime/recover" ∧ method ≠ some (Text.of "POST") then
    .refused 405
  else if method = some (Text.of "POST") ∧ pathname = Text.of "/v1/runtime/recover" then
    .json .recoverRuntime
  else if pathname = Text.of "/v1/turns" ∧ method ≠ some (Text.of "POST") then .refused 405
  else if method = some (Text.of "POST") ∧ pathname = Text.of "/v1/turns" then .turns
  else if pathname = Text.of "/v1/projects" ∧ method ≠ some (Text.of "POST") then .refused 405
  else if method = some (Text.of "POST") ∧ pathname = Text.of "/v1/projects" then
    .json .createProject
  else .refused 404

/-! ## Exchanges -/

/-- What a request has come to: it is answered, it waits for the controller's health, or a handler
is at it. `released` says that the `finally` of `handleTurn` has run. -/
inductive Handling where
  | answered (statusCode : ℕ) (body : Json.Value)
  | checkingHealth
  | json (handler : JsonHandler)
  | turn (turn : HttpTurn) (released : Bool)

/-- A request with what the server keeps for it. -/
structure HttpExchange where
  request : IncomingRequest
  reader : BodyReader := {}
  handling : Handling

/-- A request that arrives, and the threads that the controller knows then. -/
structure Arrival where
  request : IncomingRequest
  knownThreads : List ThreadHandle := []

/-- What can happen to an exchange. -/
inductive ExchangeInput where
  | health (outcome : Except ApiError ControllerHealth)
  | chunk (bytes : List UInt8)
  | bodyEnd
  | bodyFailed (error : ThrownError)
  | json (input : JsonInput)
  | turn (input : HttpInput)
  | release

/-- The inputs of a turn that do not come from the server itself. -/
def HttpInput.isExternal : HttpInput → Bool
  | .headers _ _ | .bodyRead _ => false
  | _ => true

/-- The inputs of the other handlers that do not come from the server itself. -/
def JsonInput.isExternal : JsonInput → Bool
  | .bodyRead _ => false
  | _ => true

namespace HttpExchange

variable (options : ServerOptions)

/-- The exchange of a request that a full server refuses. -/
def busy (request : IncomingRequest) : HttpExchange :=
  { request, handling := .answered 429 (errorJson .controllerBusy) }

/-- `handleProject` and `handleRuntimeRecovery`, until they read the body. The counter goes up, and
down again where the headers are refused. -/
def handleJson (operation : JsonOperation) (inflightTurns : ℕ) (request : IncomingRequest) :
    HttpExchange × ℕ :=
  if options.maxInflightTurns ≤ inflightTurns then (busy request, inflightTurns)
  else
    let handler := JsonHandler.checkHeaders options request.contentType request.contentEncoding
      { operation }
    ({ request, handling := .json handler },
      if handler.phase = .settled then inflightTurns + 1 - 1 else inflightTurns + 1)

/-- `handleTurn`, until it reads the body. -/
def handleTurn (inflightTurns : ℕ) (request : IncomingRequest) : HttpExchange × ℕ :=
  if options.maxInflightTurns ≤ inflightTurns then (busy request, inflightTurns)
  else
    let turn := HttpTurn.checkHeaders options.sink request.contentType request.contentEncoding {}
    ({ request, handling := .turn turn false }, inflightTurns + 1)

/-- What answers a request on its route. -/
def serve (inflightTurns : ℕ) (arrival : Arrival) : Route → HttpExchange × ℕ
  | .health => ({ request := arrival.request, handling := .checkingHealth }, inflightTurns)
  | .threads =>
    ({ request := arrival.request, handling := .answered 200 (threadsJson arrival.knownThreads) },
      inflightTurns)
  | .json operation => handleJson options operation inflightTurns arrival.request
  | .turns => handleTurn options inflightTurns arrival.request
  | .refused statusCode =>
    ({ request := arrival.request
       handling := .answered statusCode (errorJson (.request .API_REQUEST_INVALID statusCode)) },
      inflightTurns)

/-- What the listener of `createServer` answers when `handleRequest` throws before it answers. -/
def refuse (inflightTurns : ℕ) (request : IncomingRequest) (error : ApiError) : HttpExchange × ℕ :=
  ({ request, handling := .answered (boundaryStatus error) (errorJson error) }, inflightTurns)

/-- `handleRequest`, until its first `await`. -/
def handleRequest (inflightTurns : ℕ) (arrival : Arrival) : HttpExchange × ℕ :=
  match validateBoundary arrival.request with
  | .error error => refuse inflightTurns arrival.request error
  | .ok () =>
    match options.parseUrl (arrival.request.url.getD (Text.of "/")) with
    | none => refuse inflightTurns arrival.request (.thrown invalidUrlError)
    | some (pathname, search) =>
      if search ≠ [] then refuse inflightTurns arrival.request requestInvalid
      else serve options inflightTurns arrival (routeOf arrival.request.method pathname)

/-- The server reads the body of the request. -/
def isReading (exchange : HttpExchange) : Bool :=
  match exchange.handling with
  | .json handler => handler.phase == .reading
  | .turn turn _ => turn.phase == .reading
  | _ => false

/-- An input of a handler that is answered with JSON; the counter goes down where it settles. -/
def moveJson (exchange : HttpExchange) (handler : JsonHandler) (input : JsonInput) :
    Option (HttpExchange × (ℕ → ℕ)) :=
  (handler.step options input).map fun handler' =>
    ({ exchange with handling := .json handler' },
      if handler.phase ≠ .settled ∧ handler'.phase = .settled then (· - 1) else id)

/-- An input of a turn. -/
def moveTurn (exchange : HttpExchange) (turn : HttpTurn) (released : Bool) (input : HttpInput) :
    Option (HttpExchange × (ℕ → ℕ)) :=
  (turn.step options.maxSseBufferBytes options.sink input).map fun turn' =>
    ({ exchange with handling := .turn turn' released }, id)

/-- The body has been read, or reading it failed. -/
def moveBody (exchange : HttpExchange) (text : Except ApiError Text) :
    Option (HttpExchange × (ℕ → ℕ)) :=
  match exchange.handling with
  | .json handler =>
    moveJson options exchange handler
      (.bodyRead (text.bind (parseBody (handler.operation.parse options.unicode))))
  | .turn turn released =>
    moveTurn options exchange turn released
      (.bodyRead (text.bind (parseBody (parseTurnRequest options.maxPromptBytes))))
  | _ => none

/-- One input; `none` where it cannot occur. The second part is what it does to the counter. -/
def move (exchange : HttpExchange) : ExchangeInput → Option (HttpExchange × (ℕ → ℕ))
  | .health outcome =>
    match exchange.handling, outcome with
    | .checkingHealth, .ok health =>
      some ({ exchange with handling := .answered 200 health.toJson }, id)
    | .checkingHealth, .error error =>
      some ({ exchange with handling := .answered 503 (errorJson error) }, id)
    | _, _ => none
  | .chunk bytes =>
    if exchange.isReading then
      some ({ exchange with reader := exchange.reader.push options.maxBodyBytes bytes }, id)
    else none
  | .bodyEnd => moveBody options exchange exchange.reader.finish
  | .bodyFailed error => moveBody options exchange (.error (.thrown error))
  | .json input =>
    match exchange.handling with
    | .json handler => if input.isExternal then moveJson options exchange handler input else none
    | _ => none
  | .turn input =>
    match exchange.handling with
    | .turn turn released =>
      if input.isExternal then moveTurn options exchange turn released input else none
    | _ => none
  | .release =>
    match exchange.handling with
    | .turn turn false =>
      if turn.phase = .settled then
        some ({ exchange with handling := .turn turn true }, (· - 1))
      else none
    | _ => none

/-- The request is one of those in flight. -/
def isInflight (exchange : HttpExchange) : Bool :=
  match exchange.handling with
  | .json handler => handler.phase != .settled
  | .turn _ released => !released
  | _ => false

end HttpExchange

/-- `ThreadwireHttpServer`: the counter `inflightTurns` and the exchanges. -/
abbrev ThreadwireHttpServer := Machine.Family ℕ HttpExchange

namespace ThreadwireHttpServer

open Machine.Family (Input)

/-- An arriving request, or an input of one that has arrived. -/
abbrev ServerInput := Input Arrival ExchangeInput

/-- The rules of the family of exchanges. -/
def rules (options : ServerOptions) :
    Machine.Family.Rules ℕ HttpExchange Arrival ExchangeInput where
  join := HttpExchange.handleRequest options
  move := HttpExchange.move options

/-- One input of the server. -/
abbrev step (options : ServerOptions) : ThreadwireHttpServer → ServerInput →
    Option ThreadwireHttpServer :=
  (rules options).step

/-- A server that has been constructed. -/
def initial : ThreadwireHttpServer := { shared := 0 }

end ThreadwireHttpServer

end Threadwire
