import Threadwire.Api.RequestedCalls
import Threadwire.Api.ServerAdmission

/-!
# What reaches the controller

Every call of the controller that a handler makes is for a request that passed the boundary, on the
handler's own route and with the headers of a JSON body, and it is what the bytes of the body say; a
request is passed on at most once. `controller_calls` says this of every run of the server. It is a
statement about one exchange by itself, since the exchanges of a run are runs of their own.
-/

namespace Threadwire

namespace HttpTurn

variable {maxSseBufferBytes : ℕ} {sink : ResponseSink} {s s' : HttpTurn}

/-- The requests that the controller was called with. -/
def executed (s : HttpTurn) : List ControllerTurnRequest :=
  s.log.filterMap fun
    | .executeTurn request => some request
    | _ => none

/-- A record adds a call where it is the record of one. -/
theorem executed_record (action : HttpAction) :
    (s.record action).executed = s.executed ++ (match action with
      | .executeTurn request => [request]
      | _ => []) := by
  rw [executed, record, List.filterMap_append]
  cases action <;> rfl

/-- Any other record adds none. -/
theorem executed_record_of_ne {action : HttpAction} (h : ∀ request, action ≠ .executeTurn request) :
    (s.record action).executed = s.executed := by
  rw [executed_record]
  cases action with
  | executeTurn request => exact absurd rfl (h request)
  | _ => exact List.append_nil _

/-- The controller was not called, and the handler is as far as before. -/
structure Quiet (s s' : HttpTurn) : Prop where
  executed : s'.executed = s.executed
  phase : s'.phase = s.phase

/-- The controller was not called, and the handler is behind the call. -/
structure Behind (s s' : HttpTurn) : Prop where
  executed : s'.executed = s.executed
  phase : s'.phase ≠ .checking ∧ s'.phase ≠ .reading

/-- Quietly as far as before, twice. -/
theorem Quiet.trans {s'' : HttpTurn} (h : Quiet s s') (h' : Quiet s' s'') : Quiet s s'' :=
  ⟨h'.executed.trans h.executed, h'.phase.trans h.phase⟩

/-- Quietly as far as before, and then behind the call. -/
theorem Quiet.behind {s'' : HttpTurn} (h : Quiet s s') (h' : Behind s' s'') : Behind s s'' :=
  ⟨h'.executed.trans h.executed, h'.phase⟩

/-- Nothing has happened. -/
theorem quiet_refl : Quiet s s := ⟨rfl, rfl⟩

/-- A record that is no call. -/
theorem quiet_record (action : HttpAction) (h : ∀ request, action ≠ .executeTurn request) :
    Quiet s (s.record action) :=
  ⟨executed_record_of_ne h, rfl⟩

/-- A handler that has left the first two phases is behind the call. -/
theorem behind_of_phase (phase : HttpPhase) (hexecuted : s'.executed = s.executed)
    (hphase : s'.phase = phase) (hne : phase ≠ .checking ∧ phase ≠ .reading) : Behind s s' :=
  ⟨hexecuted, hphase ▸ hne⟩

/-- The response may be ended. -/
theorem quiet_endResponse : Quiet s (s.endResponse sink) :=
  (Quiet.mk rfl rfl : Quiet s { s with
    response := (sink.finish s.calls s.response).getD s.response, calls := s.calls + 1 }).trans
    (quiet_record .ended (by simp))

/-- An answer in JSON may be written. -/
theorem quiet_writeJson (statusCode : ℕ) : Quiet s (s.writeJson sink statusCode) :=
  (quiet_record (.wroteJson statusCode) (by simp)).trans quiet_endResponse

/-- A frame may be written, or refused. -/
theorem quiet_writeSseEvent (frame : SseFrame) :
    Quiet s (s.writeSseEvent maxSseBufferBytes sink frame).2 := by
  unfold writeSseEvent
  split_ifs
  · exact (Quiet.mk rfl rfl : Quiet s { s with
      response := s.written sink frame, calls := s.calls + 1 }).trans
      (quiet_record (.wroteSse frame) (by simp))
  · exact quiet_record (.refusedSse frame) (by simp)

/-- An event may be delivered. -/
theorem quiet_deliverEvent (frame : SseFrame) :
    Quiet s (s.deliverEvent maxSseBufferBytes sink frame) := by
  have hquiet : Quiet s (s.writeSseEvent maxSseBufferBytes sink frame).2 :=
    quiet_writeSseEvent frame
  unfold deliverEvent
  cases hwrite : s.writeSseEvent maxSseBufferBytes sink frame with
  | mk accepted written =>
    rw [hwrite] at hquiet
    dsimp only
    split_ifs
    · exact hquiet
    · exact hquiet.trans ⟨rfl, rfl⟩

/-- It may be sent on. -/
theorem quiet_sendOn (frame : SseFrame) : Quiet s (s.sendOn maxSseBufferBytes sink frame) := by
  unfold sendOn
  split_ifs
  · exact quiet_deliverEvent frame
  · exact ⟨rfl, rfl⟩
  · exact ⟨rfl, rfl⟩

/-- The listener may be called. -/
theorem quiet_listener (event : ResponseStreamEvent) :
    Quiet s (s.listener maxSseBufferBytes sink event) := by
  unfold listener
  split_ifs
  · exact quiet_refl
  · cases event with
    | completed => exact ⟨rfl, rfl⟩
    | textDelta text => exact quiet_sendOn _
    | finalText text => exact quiet_sendOn _

/-- What is pending may be delivered. -/
theorem quiet_deliverPending (frames : List SseFrame) :
    Quiet s (s.deliverPending maxSseBufferBytes sink frames) := by
  induction frames generalizing s with
  | nil => exact quiet_refl
  | cons frame frames ih =>
    unfold deliverPending
    split_ifs
    · exact quiet_refl
    · exact (quiet_deliverEvent frame).trans ih

/-- A stream is opened behind the call. -/
theorem behind_openStream : Behind s (s.openStream maxSseBufferBytes sink) :=
  ((Quiet.mk rfl rfl : Quiet s { s with streamOpened := true }).trans
    ((quiet_record .openedSse (by simp)).trans (quiet_deliverPending _))).behind
    (behind_of_phase .streaming rfl rfl (by decide))

/-- A rollback is a record of its own kind. -/
theorem quiet_rollbackCompletion : Quiet s s.rollbackCompletion := by
  unfold rollbackCompletion
  split
  · exact quiet_refl
  · split_ifs
    · exact quiet_refl
    · exact (Quiet.mk rfl rfl : Quiet s { s with completionSettled := true }).trans
        (quiet_record (.rollbackTurnCompletion _) (by simp))

/-- The end of a handler is behind the call. -/
theorem behind_conclude : Behind s (s.conclude sink) := by
  unfold conclude
  refine quiet_rollbackCompletion.behind ?_
  dsimp only
  split_ifs
  · exact quiet_endResponse.behind (behind_of_phase .settled rfl rfl (by decide))
  · exact behind_of_phase .settled rfl rfl (by decide)

/-- So is a turn that failed. -/
theorem behind_failTurn (error : ApiError) :
    Behind s (s.failTurn maxSseBufferBytes sink error) := by
  unfold failTurn
  refine quiet_rollbackCompletion.behind ?_
  dsimp only
  split_ifs
  · exact (quiet_writeSseEvent _).behind behind_conclude
  · exact behind_conclude

/-- So is a completion that is settled. -/
theorem behind_settleCompletion (result : TurnResult) :
    Behind s (s.settleCompletion sink result) := by
  unfold settleCompletion
  dsimp only
  split_ifs
  · exact ((Quiet.mk rfl rfl : Quiet s { s with completionSettled := true }).trans
      (quiet_record (.confirmTurnCompletion result) (by simp))).behind behind_conclude
  · exact quiet_rollbackCompletion.behind behind_conclude

/-- So is the frame that ends a turn. -/
theorem behind_finishedSse (result : TurnResult) (delivered : Bool) :
    Behind s (s.finishedSse sink result delivered) :=
  ((Quiet.mk rfl rfl : Quiet s { s with transportOpen := delivered }).trans
    (quiet_record (.finishedSse delivered) (by simp))).behind (behind_settleCompletion result)

/-- So is the wait for the response to take it. -/
theorem behind_finishSseResponse (result : TurnResult) :
    Behind s (s.finishSseResponse sink result) := by
  unfold finishSseResponse
  split_ifs
  · exact behind_finishedSse result false
  · split
    · exact behind_finishedSse result false
    · exact behind_of_phase .finishing (executed_record_of_ne (by simp)) rfl (by decide)

/-- The completed frame may be written. -/
theorem quiet_writeCompleted (result : TurnResult) :
    Quiet s (s.writeCompleted maxSseBufferBytes sink result) := by
  have hquiet : Quiet s (s.writeSseEvent maxSseBufferBytes sink (.completed result)).2 :=
    quiet_writeSseEvent _
  unfold writeCompleted
  split_ifs
  · cases hwrite : s.writeSseEvent maxSseBufferBytes sink (.completed result) with
    | mk accepted written =>
      rw [hwrite] at hquiet
      exact hquiet.trans ⟨rfl, rfl⟩
  · exact quiet_refl

/-- A turn that resolves was called. -/
theorem behind_turnResolved (result : TurnResult) :
    Behind s (s.turnResolved maxSseBufferBytes sink result) := by
  unfold turnResolved
  refine (Quiet.mk rfl rfl : Quiet s { s with result := some result }).behind ?_
  dsimp only
  split_ifs
  · exact behind_failTurn _
  · exact (quiet_writeCompleted result).behind (behind_finishSseResponse result)
  · exact (quiet_writeCompleted result).behind (behind_settleCompletion result)

/-- A call that throws was made. -/
theorem behind_executionThrew (error : ApiError) : Behind s (s.executionThrew sink error) := by
  unfold executionThrew
  split_ifs
  · exact (quiet_writeJson _).behind (behind_of_phase .settled rfl rfl (by decide))
  · exact behind_of_phase .settled rfl rfl (by decide)

/-- What the response says ends only a handler that is finishing. -/
theorem onResponseEvent_spec (sink : ResponseSink) (s : HttpTurn) (delivered : Bool) :
    Quiet s (s.onResponseEvent sink delivered) ∨
      s.phase = .finishing ∧ Behind s (s.onResponseEvent sink delivered) := by
  unfold onResponseEvent
  split
  · next result hphase _ => exact .inr ⟨hphase, behind_finishedSse result delivered⟩
  · exact .inl quiet_refl

/-- An input from outside leaves a handler that reads at its reading, and does not call the
controller. -/
theorem step_external {input : HttpInput} (hinput : input.isExternal = true)
    (hstep : s.step maxSseBufferBytes sink input = some s') :
    Quiet s s' ∨ s.phase ≠ .checking ∧ s.phase ≠ .reading ∧ Behind s s' := by
  -- What the handler does after its call is behind the reading: it calls nothing more.
  have hphase : ∀ {phase : HttpPhase}, s.phase = phase → phase ≠ .checking → phase ≠ .reading →
      Behind s s' → Quiet s s' ∨ s.phase ≠ .checking ∧ s.phase ≠ .reading ∧ Behind s s' := by
    rintro phase rfl hchecking hreading hbehind
    exact .inr ⟨hchecking, hreading, hbehind⟩
  cases input with
  | headers contentType contentEncoding => cases hinput
  | bodyRead body => cases hinput
  | event event =>
    simp only [step] at hstep
    split_ifs at hstep
    obtain rfl := Option.some.inj hstep
    exact .inl (quiet_listener event)
  | returned =>
    simp only [step] at hstep
    split_ifs at hstep with hexecuting
    obtain rfl := Option.some.inj hstep
    exact hphase hexecuting (by decide) (by decide) behind_openStream
  | threw error =>
    simp only [step] at hstep
    split_ifs at hstep with hexecuting
    obtain rfl := Option.some.inj hstep
    exact hphase hexecuting (by decide) (by decide) (behind_executionThrew error)
  | resolved result =>
    simp only [step] at hstep
    split_ifs at hstep with hstreaming
    obtain rfl := Option.some.inj hstep
    exact hphase hstreaming (by decide) (by decide) (behind_turnResolved result)
  | rejected error =>
    simp only [step] at hstep
    split_ifs at hstep with hstreaming
    obtain rfl := Option.some.inj hstep
    exact hphase hstreaming (by decide) (by decide) (behind_failTurn error)
  | requestAborted =>
    obtain rfl := Option.some.inj hstep
    left
    unfold onRequestAborted
    split_ifs
    · exact ⟨rfl, rfl⟩
    · exact quiet_refl
  | responseFinish =>
    obtain rfl := Option.some.inj hstep
    rcases onResponseEvent_spec sink s true with hquiet | ⟨hfinishing, hbehind⟩
    · exact .inl hquiet
    · exact hphase hfinishing (by decide) (by decide) hbehind
  | responseClose =>
    obtain rfl := Option.some.inj hstep
    -- The close is marked first, and the listener of the end of the stream runs after it.
    have hclose : Quiet s s.onResponseClose := by
      unfold onResponseClose
      split_ifs
      · exact ⟨rfl, rfl⟩
      · exact quiet_refl
    rcases onResponseEvent_spec sink s.onResponseClose false with
      hquiet | ⟨hfinishing, hbehind⟩
    · exact .inl (hclose.trans hquiet)
    · exact hphase (hclose.phase.symm.trans hfinishing) (by decide) (by decide)
        (hclose.behind hbehind)
  | responseError =>
    obtain rfl := Option.some.inj hstep
    rcases onResponseEvent_spec sink s false with hquiet | ⟨hfinishing, hbehind⟩
    · exact .inl hquiet
    · exact hphase hfinishing (by decide) (by decide) hbehind
  | transport response =>
    obtain rfl := Option.some.inj hstep
    exact .inl ⟨rfl, rfl⟩

/-- Reading the body ends the reading; the controller is called only with what the body says. -/
theorem bodyRead_spec (sink : ResponseSink) (s : HttpTurn)
    (body : Except ApiError ControllerTurnRequest) :
    (s.bodyRead sink body).phase ≠ .reading ∧
      ((s.bodyRead sink body).executed = s.executed ∨
        ∃ request, body = .ok request ∧
          (s.bodyRead sink body).executed = s.executed ++ [request]) := by
  cases body with
  | error error =>
    simp only [bodyRead]
    split_ifs
    · exact ⟨by simp, .inl (quiet_writeJson (bodyErrorStatus error)).executed⟩
    · exact ⟨by simp, .inl rfl⟩
  | ok request =>
    simp only [bodyRead]
    split_ifs
    · exact ⟨by simp, .inl rfl⟩
    · exact ⟨by simp, .inr ⟨request, rfl, executed_record _⟩⟩

end HttpTurn

namespace JsonHandler

variable {options : ServerOptions} {s s' : JsonHandler}

/-- The calls of the controller. -/
def called (s : JsonHandler) : List JsonCall :=
  s.log.filterMap fun
    | .called call => some call
    | .wroteJson _ _ => none

/-- An answer in JSON calls nothing. -/
theorem called_writeJson (statusCode : ℕ) (body : Json.Value) :
    (s.writeJson options statusCode body).called = s.called := by
  unfold writeJson
  split_ifs
  · rfl
  · rw [called, List.filterMap_append]
    exact List.append_nil _

/-- Reading the body ends the reading; the controller is called only with what the body says. -/
theorem bodyRead_spec (options : ServerOptions) (s : JsonHandler)
    (body : Except ApiError JsonCall) :
    (s.bodyRead options body).phase ≠ .reading ∧
      ((s.bodyRead options body).called = s.called ∨
        ∃ call, body = .ok call ∧ (s.bodyRead options body).called = s.called ++ [call]) := by
  cases body with
  | error error =>
    simp only [bodyRead]
    split_ifs
    · exact ⟨by simp [settle], .inl rfl⟩
    · exact ⟨by simp [settle], .inl (called_writeJson _ _)⟩
  | ok call =>
    simp only [bodyRead]
    split_ifs
    · exact ⟨by simp [settle], .inl rfl⟩
    · exact ⟨by simp [settle], .inl (called_writeJson _ _)⟩
    · refine ⟨by simp, .inr ⟨call, rfl, ?_⟩⟩
      rw [called, List.filterMap_append]
      rfl

/-- The operation is that of the route. -/
theorem operation_writeJson (statusCode : ℕ) (body : Json.Value) :
    (s.writeJson options statusCode body).operation = s.operation := by
  unfold writeJson
  split_ifs <;> rfl

/-- The controller was not called, and the handler reads if it did before. -/
structure Quiet (s s' : JsonHandler) : Prop where
  called : s'.called = s.called
  reading : s'.phase = .reading ↔ s.phase = .reading
  operation : s'.operation = s.operation

/-- An answer ends a handler that executes. -/
theorem quiet_answered (statusCode : ℕ) (body : Json.Value) (hphase : s.phase = .executing) :
    Quiet s (s.writeJson options statusCode body).settle where
  called := called_writeJson statusCode body
  reading := by simp [settle, hphase]
  operation := operation_writeJson statusCode body

/-- An input from outside does not call the controller. -/
theorem step_external {input : JsonInput} (hinput : input.isExternal = true)
    (hstep : s.step options input = some s') : Quiet s s' := by
  cases input with
  | bodyRead body => cases hinput
  | created projectHandle =>
    simp only [step] at hstep
    split_ifs at hstep with hcreating
    obtain rfl := Option.some.inj hstep
    exact quiet_answered _ _ hcreating.1
  | recovered health =>
    simp only [step] at hstep
    split_ifs at hstep with hrecovering
    obtain rfl := Option.some.inj hstep
    exact quiet_answered _ _ hrecovering.1
  | rejected error =>
    simp only [step] at hstep
    split_ifs at hstep with hexecuting
    obtain rfl := Option.some.inj hstep
    -- The request has gone, or it is answered with the error.
    unfold rejected
    split_ifs
    · exact ⟨rfl, by simp [settle, hexecuting], rfl⟩
    · exact quiet_answered _ _ hexecuting
  | requestAborted =>
    obtain rfl := Option.some.inj hstep
    unfold onRequestAborted
    split_ifs <;> exact ⟨rfl, Iff.rfl, rfl⟩
  | responseClose =>
    obtain rfl := Option.some.inj hstep
    unfold onResponseClose
    split_ifs <;> exact ⟨rfl, Iff.rfl, rfl⟩
  | transport response =>
    obtain rfl := Option.some.inj hstep
    exact ⟨rfl, Iff.rfl, rfl⟩

end JsonHandler

/-! ## What a request asks for -/

namespace IncomingRequest

/-- The headers announce a JSON body that is not encoded. -/
def hasJsonHeaders (request : IncomingRequest) : Prop :=
  HttpTurn.isJsonContentType request.contentType = true ∧
    (request.contentEncoding = none ∨ request.contentEncoding = some (Text.of "identity"))

/-- The route of a request that passes the boundary and has no query. -/
def route (options : ServerOptions) (request : IncomingRequest) : Option Route :=
  match validateBoundary request, options.parseUrl (request.url.getD (Text.of "/")) with
  | .ok (), some (pathname, []) => some (routeOf request.method pathname)
  | _, _ => none

/-- The request asks for the call: it comes from this machine on the call's route, with the headers
of a JSON body, and the bytes of its body say the call. -/
structure Asks (options : ServerOptions) (request : IncomingRequest) (chunks : List (List UInt8))
    (call : RequestedCall) : Prop where
  headers : request.hasJsonHeaders
  route : request.route options = some call.route
  body : call.route.callOf options (readBody options.maxBodyBytes chunks) = .ok call

end IncomingRequest

namespace HttpExchange

variable {options : ServerOptions} {exchange exchange' : HttpExchange} {change : ℕ → ℕ}
  {past : List ExchangeInput}

/-- The calls of `executeTurn`, `createProject` and `recoverRuntime` that the handler has made. That
a turn's completion is confirmed or rolled back later is part of the same call for its client. -/
def calls (exchange : HttpExchange) : List RequestedCall :=
  match exchange.handling with
  | .json handler => handler.called.map .json
  | .turn turn _ => turn.executed.map .executeTurn
  | _ => []

/-- The route of the handler. -/
def route (exchange : HttpExchange) : Option Route :=
  match exchange.handling with
  | .json handler => some (.json handler.operation)
  | .turn _ _ => some .turns
  | _ => none

/-- The chunks of the body. -/
def chunksOf (inputs : List ExchangeInput) : List (List UInt8) :=
  inputs.filterMap fun
    | .chunk bytes => some bytes
    | _ => none

/-- The exchange reads the body of a request with a handler's route and headers. -/
structure Reading (options : ServerOptions) (past : List ExchangeInput) (exchange : HttpExchange) :
    Prop where
  reading : exchange.isReading = true
  reader : exchange.reader = BodyReader.pushAll options.maxBodyBytes {} (chunksOf past)
  headers : exchange.request.hasJsonHeaders
  route : exchange.request.route options = exchange.route
  calls : exchange.calls = []

/-- The exchange does not read, and it has made at most the call that its request asks for. -/
structure Past (options : ServerOptions) (past : List ExchangeInput) (exchange : HttpExchange) :
    Prop where
  reading : exchange.isReading = false
  once : exchange.calls.length ≤ 1
  asked : ∀ call ∈ exchange.calls, exchange.request.Asks options (chunksOf past) call

/-- A handler that does not read, and has called nothing. -/
theorem past_of_calls_eq_nil (hreading : exchange.isReading = false)
    (hcalls : exchange.calls = []) :
    Past options past exchange where
  reading := hreading
  once := by rw [hcalls]; exact Nat.zero_le 1
  asked := by
    rw [hcalls]
    rintro call hcall
    cases hcall

/-! ## Arrivals -/

/-- A project or a recovery begins to read its body, or is refused. -/
theorem handleJson_begun {operation : JsonOperation} {inflightTurns : ℕ} {request : IncomingRequest}
    (hroute : request.route options = some (.json operation)) :
    Reading options [] (handleJson options operation inflightTurns request).1 ∨
      Past options [] (handleJson options operation inflightTurns request).1 := by
  unfold handleJson
  split_ifs with hfull
  · exact .inr (past_of_calls_eq_nil rfl rfl)
  · unfold JsonHandler.checkHeaders
    split_ifs with hheaders
    · exact .inr (past_of_calls_eq_nil rfl (congrArg (List.map _)
        (JsonHandler.called_writeJson _ _)))
    · refine .inl ⟨rfl, rfl, ?_, hroute, rfl⟩
      simpa [IncomingRequest.hasJsonHeaders, not_or, imp_iff_not_or, not_not] using hheaders

/-- So does a turn. -/
theorem handleTurn_begun {inflightTurns : ℕ} {request : IncomingRequest}
    (hroute : request.route options = some .turns) :
    Reading options [] (handleTurn options inflightTurns request).1 ∨
      Past options [] (handleTurn options inflightTurns request).1 := by
  unfold handleTurn
  split_ifs with hfull
  · exact .inr (past_of_calls_eq_nil rfl rfl)
  · unfold HttpTurn.checkHeaders
    have hexecuted : (HttpTurn.writeJson options.sink 415 {}).executed = [] :=
      (HttpTurn.quiet_writeJson 415).executed
    split_ifs with htype hencoding
    · exact .inr (past_of_calls_eq_nil rfl (congrArg (List.map .executeTurn) hexecuted))
    · exact .inr (past_of_calls_eq_nil rfl (congrArg (List.map .executeTurn) hexecuted))
    · refine .inl ⟨rfl, rfl, ⟨by simpa using htype, ?_⟩, hroute, rfl⟩
      simpa [imp_iff_not_or, not_not] using hencoding

/-- So does any request, on its route. -/
theorem handleRequest_begun (inflightTurns : ℕ) (arrival : Arrival) :
    Reading options [] (handleRequest options inflightTurns arrival).1 ∨
      Past options [] (handleRequest options inflightTurns arrival).1 := by
  have hroute : arrival.request.route options = arrival.request.route options := rfl
  conv_rhs at hroute => unfold IncomingRequest.route
  unfold handleRequest
  cases hboundary : validateBoundary arrival.request with
  | error error => exact .inr (past_of_calls_eq_nil rfl rfl)
  | ok =>
    cases hurl : options.parseUrl (arrival.request.url.getD (Text.of "/")) with
    | none => exact .inr (past_of_calls_eq_nil rfl rfl)
    | some parts =>
      obtain ⟨pathname, search⟩ := parts
      cases search with
      | cons c search => exact .inr (past_of_calls_eq_nil rfl rfl)
      | nil =>
        rw [hboundary, hurl] at hroute
        dsimp only at hroute ⊢
        rw [if_neg (by simp)]
        cases hkind : routeOf arrival.request.method pathname with
        | json operation => exact handleJson_begun (hkind ▸ hroute)
        | turns => exact handleTurn_begun (hkind ▸ hroute)
        | health => exact .inr (past_of_calls_eq_nil rfl rfl)
        | threads => exact .inr (past_of_calls_eq_nil rfl rfl)
        | refused statusCode => exact .inr (past_of_calls_eq_nil rfl rfl)

/-- The request stays with its exchange. -/
theorem request_handleRequest (inflightTurns : ℕ) (arrival : Arrival) :
    (handleRequest options inflightTurns arrival).1.request = arrival.request := by
  unfold handleRequest
  split
  · rfl
  · split
    · rfl
    · split_ifs
      · rfl
      · cases routeOf arrival.request.method _ with
        | json operation => simp only [serve, handleJson]; split_ifs <;> rfl
        | turns => simp only [serve, handleTurn]; split_ifs <;> rfl
        | health => rfl
        | threads => rfl
        | refused statusCode => rfl

/-! ## Moves -/

/-- The end of the body: the handler stops reading, and calls the controller at most with what the
body says. -/
structure Read (options : ServerOptions) (text : Except ApiError Text)
    (exchange exchange' : HttpExchange) : Prop where
  request : exchange'.request = exchange.request
  before : exchange.isReading = true
  after : exchange'.isReading = false
  calls : exchange'.calls = exchange.calls ∨ ∃ call,
    exchange.route = some call.route ∧ call.route.callOf options text = .ok call ∧
      exchange'.calls = exchange.calls ++ [call]

/-- An input that leaves a handler at its reading, or finds it past that, and calls nothing. -/
structure Quiet (exchange exchange' : HttpExchange) : Prop where
  request : exchange'.request = exchange.request
  reader : exchange'.reader = exchange.reader
  reading : exchange'.isReading = exchange.isReading
  route : exchange'.route = exchange.route
  calls : exchange'.calls = exchange.calls

/-- At the end of its body a request is parsed, and called at most as it parses. -/
theorem read_moveBody {text : Except ApiError Text}
    (hmove : moveBody options exchange text = some (exchange', change)) :
    Read options text exchange exchange' := by
  unfold moveBody at hmove
  split at hmove
  · next handler hhandling =>
    obtain ⟨handler', hstep, heq⟩ := Option.map_eq_some_iff.mp hmove
    obtain ⟨rfl, rfl⟩ := Prod.mk.inj heq
    simp only [JsonHandler.step] at hstep
    split_ifs at hstep with hphase
    obtain rfl := Option.some.inj hstep
    -- What the body says is parsed by the operation that the route chose, so the call that is made
    -- is the one that `callOf` reads on the route.
    obtain ⟨hafter, hcalled⟩ := JsonHandler.bodyRead_spec options handler
      (text.bind (parseBody (handler.operation.parse options.unicode)))
    refine ⟨rfl, ?_, ?_, ?_⟩
    · rw [isReading, hhandling]
      exact beq_iff_eq.mpr hphase
    · exact beq_eq_false_iff_ne.mpr hafter
    · rw [calls, calls, hhandling, route, hhandling]
      rcases hcalled with hsame | ⟨call, hbody, hcall⟩
      · exact .inl (congrArg (List.map _) hsame)
      · have hasked := callOf_json hbody
        refine .inr ⟨.json call, congrArg some (route_of_callOf hasked), ?_, ?_⟩
        · rwa [← route_of_callOf hasked]
        · show List.map _ _ = _
          rw [hcall, List.map_append]
          rfl
  · next turn released hhandling =>
    obtain ⟨turn', hstep, heq⟩ := Option.map_eq_some_iff.mp hmove
    obtain ⟨rfl, rfl⟩ := Prod.mk.inj heq
    simp only [HttpTurn.step] at hstep
    split_ifs at hstep with hphase
    obtain rfl := Option.some.inj hstep
    obtain ⟨hafter, hexecuted⟩ := HttpTurn.bodyRead_spec options.sink turn
      (text.bind (parseBody (parseTurnRequest options.maxPromptBytes)))
    refine ⟨rfl, ?_, ?_, ?_⟩
    · rw [isReading, hhandling]
      exact beq_iff_eq.mpr hphase
    · exact beq_eq_false_iff_ne.mpr hafter
    · rw [calls, calls, hhandling, route, hhandling]
      rcases hexecuted with hsame | ⟨request, hbody, hcall⟩
      · exact .inl (congrArg (List.map _) hsame)
      · refine .inr ⟨.executeTurn request, rfl, callOf_turns hbody, ?_⟩
        show List.map _ _ = _
        rw [hcall, List.map_append]
        rfl
  · cases hmove

/-- The other inputs of a project or a recovery call nothing. -/
theorem quiet_json {handler : JsonHandler} {input : JsonInput}
    (hhandling : exchange.handling = .json handler) (hinput : input.isExternal = true)
    (hmove : moveJson options exchange handler input = some (exchange', change)) :
    Quiet exchange exchange' := by
  obtain ⟨handler', hstep, heq⟩ := Option.map_eq_some_iff.mp hmove
  obtain ⟨rfl, rfl⟩ := Prod.mk.inj heq
  have hquiet := JsonHandler.step_external hinput hstep
  refine ⟨rfl, rfl, ?_, ?_, ?_⟩
  · rw [isReading, isReading, hhandling]
    exact Bool.eq_iff_iff.mpr (by simpa using hquiet.reading)
  · rw [route, route, hhandling]
    exact congrArg (fun operation => some (Route.json operation)) hquiet.operation
  · rw [calls, calls, hhandling]
    exact congrArg (List.map _) hquiet.called

/-- Neither do those of a turn. -/
theorem quiet_turn {turn : HttpTurn} {released : Bool} {input : HttpInput}
    (hhandling : exchange.handling = .turn turn released) (hinput : input.isExternal = true)
    (hmove : moveTurn options exchange turn released input = some (exchange', change)) :
    Quiet exchange exchange' := by
  obtain ⟨turn', hstep, heq⟩ := Option.map_eq_some_iff.mp hmove
  obtain ⟨rfl, rfl⟩ := Prod.mk.inj heq
  -- Either nothing is to be seen of the input, or the handler is behind its reading, before and
  -- after.
  rcases HttpTurn.step_external hinput hstep with hquiet | ⟨-, hreading, hbehind⟩
  · refine ⟨rfl, rfl, ?_, ?_, ?_⟩
    · rw [isReading, isReading, hhandling]
      exact congrArg (· == HttpPhase.reading) hquiet.phase
    · rw [route, route, hhandling]
    · rw [calls, calls, hhandling]
      exact congrArg (List.map _) hquiet.executed
  · refine ⟨rfl, rfl, ?_, ?_, ?_⟩
    · rw [isReading, isReading, hhandling]
      exact (beq_eq_false_iff_ne.mpr hbehind.phase.2).trans (beq_eq_false_iff_ne.mpr hreading).symm
    · rw [route, route, hhandling]
    · rw [calls, calls, hhandling]
      exact congrArg (List.map _) hbehind.executed

/-- What an input can do to an exchange: it brings a chunk, it ends the body, or it calls
nothing. -/
inductive Moved (options : ServerOptions) (exchange exchange' : HttpExchange) : ExchangeInput → Prop
  | chunk {bytes : List UInt8} (hreading : exchange.isReading = true)
      (hpushed : exchange' =
        { exchange with reader := exchange.reader.push options.maxBodyBytes bytes }) :
      Moved options exchange exchange' (.chunk bytes)
  | bodyEnd (hread : Read options exchange.reader.finish exchange exchange') :
      Moved options exchange exchange' .bodyEnd
  | bodyFailed {error : ThrownError}
    (hread : Read options (.error (.thrown error)) exchange exchange') :
      Moved options exchange exchange' (.bodyFailed error)
  | quiet {input : ExchangeInput} (hchunk : chunksOf [input] = [])
    (hquiet : Quiet exchange exchange') :
      Moved options exchange exchange' input

/-- One input of an exchange, by its kind. -/
theorem moved {input : ExchangeInput}
    (hmove : exchange.move options input = some (exchange', change)) :
    Moved options exchange exchange' input := by
  cases input with
  | health outcome =>
    -- Like the release of a slot, this changes what the exchange is at and calls nothing.
    simp only [move] at hmove
    split at hmove
    · next health hhandling =>
      obtain ⟨rfl, rfl⟩ := Prod.mk.inj (Option.some.inj hmove)
      refine .quiet rfl ⟨rfl, rfl, ?_, ?_, ?_⟩
      · rw [isReading, isReading, hhandling]
      · rw [route, route, hhandling]
      · rw [calls, calls, hhandling]
    · next error hhandling =>
      obtain ⟨rfl, rfl⟩ := Prod.mk.inj (Option.some.inj hmove)
      refine .quiet rfl ⟨rfl, rfl, ?_, ?_, ?_⟩
      · rw [isReading, isReading, hhandling]
      · rw [route, route, hhandling]
      · rw [calls, calls, hhandling]
    · cases hmove
  | chunk bytes =>
    simp only [move] at hmove
    split_ifs at hmove with hreading
    obtain ⟨rfl, rfl⟩ := Prod.mk.inj (Option.some.inj hmove)
    exact .chunk hreading rfl
  | bodyEnd => exact .bodyEnd (read_moveBody hmove)
  | bodyFailed error => exact .bodyFailed (read_moveBody hmove)
  | json input =>
    simp only [move] at hmove
    split at hmove
    · next handler hhandling =>
      split_ifs at hmove with hinput
      exact .quiet rfl (quiet_json hhandling hinput hmove)
    · cases hmove
  | turn input =>
    simp only [move] at hmove
    split at hmove
    · next turn released hhandling =>
      split_ifs at hmove with hinput
      exact .quiet rfl (quiet_turn hhandling hinput hmove)
    · cases hmove
  | release =>
    simp only [move] at hmove
    split at hmove
    · next turn hhandling =>
      split_ifs at hmove
      obtain ⟨rfl, rfl⟩ := Prod.mk.inj (Option.some.inj hmove)
      refine .quiet rfl ⟨rfl, rfl, ?_, ?_, ?_⟩
      · rw [isReading, isReading, hhandling]
      · rw [route, route, hhandling]
      · rw [calls, calls, hhandling]
    · cases hmove

/-- No input changes the request. -/
theorem Moved.request {input : ExchangeInput} (h : Moved options exchange exchange' input) :
    exchange'.request = exchange.request := by
  cases h with
  | chunk hreading hpushed => rw [hpushed]
  | bodyEnd hread => exact hread.request
  | bodyFailed hread => exact hread.request
  | quiet hchunk hquiet => exact hquiet.request

/-! ## One exchange by itself -/

/-- One input more brings one chunk more, or none. -/
theorem chunksOf_concat (past : List ExchangeInput) (input : ExchangeInput) :
    chunksOf (past ++ [input]) = chunksOf past ++ chunksOf [input] :=
  List.filterMap_append

/-- A body that was read as a call has led to that call only. -/
theorem Past.of_read {text : Except ApiError Text} {input : ExchangeInput}
    (h : Reading options past exchange) (hread : Read options text exchange exchange')
    (htext : ∀ {route : Route} {call}, route.callOf options text = .ok call →
      route.callOf options (readBody options.maxBodyBytes (chunksOf (past ++ [input]))) =
        .ok call) :
    Past options (past ++ [input]) exchange' := by
  rcases hread.calls with hsame | ⟨call, hroute, hcall, hcalls⟩
  · exact past_of_calls_eq_nil hread.after (hsame.trans h.calls)
  · rw [h.calls, List.nil_append] at hcalls
    refine ⟨hread.after, by rw [hcalls]; exact Nat.le_refl 1, ?_⟩
    rw [hcalls]
    intro call' hcall'
    obtain rfl := List.mem_singleton.mp hcall'
    refine ⟨hread.request ▸ h.headers, ?_, htext hcall⟩
    rw [hread.request, h.route, hroute]

/-- What an input makes of an exchange that reads. -/
theorem Reading.step {input : ExchangeInput} (h : Reading options past exchange)
    (hmoved : Moved options exchange exchange' input) :
    Reading options (past ++ [input]) exchange' ∨ Past options (past ++ [input]) exchange' := by
  cases hmoved with
  | chunk hreading hpushed =>
    subst hpushed
    refine .inl ⟨hreading, ?_, h.headers, h.route, h.calls⟩
    rw [chunksOf_concat]
    show BodyReader.push _ exchange.reader _ = _
    rw [BodyReader.pushAll, List.foldl_append, h.reader]
    rfl
  | bodyEnd hread =>
    refine .inr (.of_read h hread fun hcall => ?_)
    rw [chunksOf_concat, show chunksOf [ExchangeInput.bodyEnd] = [] from rfl, List.append_nil]
    rwa [h.reader] at hcall
  | bodyFailed hread =>
    refine .inr (.of_read h hread fun hcall => ?_)
    cases hcall
  | quiet hchunk hquiet =>
    refine .inl ⟨hquiet.reading.trans h.reading, ?_, hquiet.request ▸ h.headers, ?_,
      hquiet.calls.trans h.calls⟩
    · rw [chunksOf_concat, hchunk, List.append_nil, hquiet.reader, h.reader]
    · rw [hquiet.request, hquiet.route, h.route]

/-- What an input makes of an exchange that is past its reading. -/
theorem Past.step {input : ExchangeInput} (h : Past options past exchange)
    (hmoved : Moved options exchange exchange' input) :
    Past options (past ++ [input]) exchange' := by
  cases hmoved with
  | chunk hreading hpushed => rw [h.reading] at hreading; cases hreading
  | bodyEnd hread => cases h.reading.symm.trans hread.before
  | bodyFailed hread => cases h.reading.symm.trans hread.before
  | quiet hchunk hquiet =>
    refine ⟨hquiet.reading.trans h.reading, hquiet.calls ▸ h.once, ?_⟩
    rw [chunksOf_concat, hchunk, List.append_nil, hquiet.calls, hquiet.request]
    exact h.asked

/-- An exchange, after any inputs of its own. -/
theorem exec_own {inflightTurns : ℕ} {arrival : Arrival} {inputs : List ExchangeInput}
    (hrun : Machine.exec (ThreadwireHttpServer.rules options).own
      (handleRequest options inflightTurns arrival).1 inputs = some exchange) :
    exchange.request = arrival.request ∧
      (Reading options inputs exchange ∨ Past options inputs exchange) := by
  refine Machine.exec_history (I := fun inputs exchange => exchange.request = arrival.request ∧
    (Reading options inputs exchange ∨ Past options inputs exchange))
    ⟨request_handleRequest inflightTurns arrival, handleRequest_begun inflightTurns arrival⟩ ?_ hrun
  rintro past before input after - ⟨hrequest, hstage⟩ hstep
  obtain ⟨⟨exchange', change⟩, hmove, rfl⟩ := Option.map_eq_some_iff.mp hstep
  have hmoved := moved hmove
  refine ⟨hmoved.request.trans hrequest, ?_⟩
  rcases hstage with hreading | hpast
  · exact hreading.step hmoved
  · exact .inr (hpast.step hmoved)

end HttpExchange

namespace ThreadwireHttpServer

open Machine.Family (inputsOf joiners)

variable {options : ServerOptions} {server : ThreadwireHttpServer} {inputs : List ServerInput}

/-- In every run, whatever order the requests move on in: each exchange has asked the controller for
at most one turn, project or recovery, and only for what its own request asks for. -/
theorem controller_calls {position : ℕ} {exchange : HttpExchange}
    (hrun : Machine.exec (step options) initial inputs = some server)
    (hexchange : server.members[position]? = some exchange) :
    (∃ arrival, (joiners inputs)[position]? = some arrival ∧ exchange.request = arrival.request) ∧
      exchange.calls.length ≤ 1 ∧
      ∀ call ∈ exchange.calls,
        exchange.request.Asks options (HttpExchange.chunksOf (inputsOf position inputs)) call := by
  obtain ⟨arrival, inflightTurns, harrival, hown⟩ :=
    (Machine.Family.members_run hrun).2 position exchange hexchange
  obtain ⟨hrequest, hreading | hpast⟩ := HttpExchange.exec_own hown
  · refine ⟨⟨arrival, harrival, hrequest⟩, ?_, ?_⟩
    · rw [hreading.calls]
      exact Nat.zero_le 1
    · rw [hreading.calls]
      rintro call hcall
      cases hcall
  · exact ⟨⟨arrival, harrival, hrequest⟩, hpast.once, hpast.asked⟩

/-- A turn comes in, and another request, which waits for the health of the controller. The body of
the turn comes in pieces. -/
def freshTurnPieces : List ServerInput :=
  [.join turnArrival, .join healthArrival] ++
    freshTurnBody.map fun bytes => .move 0 (.chunk bytes)

/-- The exchange of the turn, when all of its body is there. -/
def freshTurnExchange : HttpExchange where
  request := turnArrival.request
  reader := BodyReader.pushAll (ServerOptions.plain 1 Nat.one_pos).maxBodyBytes {} freshTurnBody
  handling := .turn { phase := .reading } false

/-- The pieces say the turn. -/
theorem freshTurnExchange_body :
    freshTurnExchange.reader.finish.bind
        (parseBody (parseTurnRequest (ServerOptions.plain 1 Nat.one_pos).maxPromptBytes)) =
      .ok ⟨.fresh, [0x61, 0xE9]⟩ := by
  refine bind_parseBody_eq_ok.mpr ⟨Utf8.toText (Text.toUtf8 freshTurn.toJson.text),
    freshTurn.toJson, by decide +kernel, Json.parse_toText_toUtf8 spelled_call, ?_⟩
  exact parseTurnRequest_eq_ok.mpr ⟨Json.Value.Same.refl _, by decide, by decide, trivial⟩

/-- The exchange after that: its handler has called the controller. -/
def calledTurnExchange : HttpExchange :=
  { freshTurnExchange with
    handling :=
      .turn { phase := .executing, log := [.executeTurn ⟨.fresh, [0x61, 0xE9]⟩] } false }

/-- At the end of the body the controller is called with the turn that the pieces say, and the other
request leads to no call. -/
theorem controller_calls_turn : ∃ (server : ThreadwireHttpServer) (exchange : HttpExchange),
    Machine.exec (step (ServerOptions.plain 1 Nat.one_pos)) initial
        (freshTurnPieces ++ [.move 0 .bodyEnd]) = some server ∧
      server.members[0]? = some exchange ∧ exchange.calls = [freshTurn] ∧
      exchange.request.Asks (ServerOptions.plain 1 Nat.one_pos) freshTurnBody freshTurn := by
  have hmove : (rules (ServerOptions.plain 1 Nat.one_pos)).move freshTurnExchange .bodyEnd =
      some (calledTurnExchange, id) := by
    show HttpExchange.moveTurn (ServerOptions.plain 1 Nat.one_pos) freshTurnExchange
      { phase := .reading } false (.bodyRead (freshTurnExchange.reader.finish.bind
        (parseBody (parseTurnRequest (ServerOptions.plain 1 Nat.one_pos).maxPromptBytes)))) = _
    rw [freshTurnExchange_body]
    rfl
  have hpieces : Machine.exec (step (ServerOptions.plain 1 Nat.one_pos)) initial freshTurnPieces =
      some ⟨1, [freshTurnExchange, ⟨healthArrival.request, {}, .checkingHealth⟩]⟩ := rfl
  have hlast : step (ServerOptions.plain 1 Nat.one_pos)
      ⟨1, [freshTurnExchange, ⟨healthArrival.request, {}, .checkingHealth⟩]⟩ (.move 0 .bodyEnd) =
        some ⟨1, [calledTurnExchange, ⟨healthArrival.request, {}, .checkingHealth⟩]⟩ :=
    Machine.Family.step_move.mpr ⟨freshTurnExchange, calledTurnExchange, id, rfl, hmove, rfl⟩
  have hrun : Machine.exec (step (ServerOptions.plain 1 Nat.one_pos)) initial
      (freshTurnPieces ++ [.move 0 .bodyEnd]) =
        some ⟨1, [calledTurnExchange, ⟨healthArrival.request, {}, .checkingHealth⟩]⟩ :=
    Machine.exec_append_eq_some.mpr ⟨_, hpieces, Machine.exec_cons_eq_some.mpr ⟨_, hlast, rfl⟩⟩
  have hexchange : (⟨1, [calledTurnExchange, ⟨healthArrival.request, {}, .checkingHealth⟩]⟩ :
      ThreadwireHttpServer).members[0]? = some calledTurnExchange := rfl
  have hcalls := (controller_calls hrun hexchange).2.2 freshTurn List.mem_cons_self
  exact ⟨_, calledTurnExchange, hrun, rfl, rfl, hcalls⟩

end ThreadwireHttpServer

end Threadwire
