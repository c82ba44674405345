import Threadwire.Api.HttpCompletion
import Threadwire.Api.ServerCalls

/-!
# What a request is answered

A request is answered once: with JSON, or with the stream of a turn. `server_answers` says that no
exchange of any run is answered twice, that one that is over has been answered unless its client
went away before, and what a project creation or a recovery that has got a place is answered: the
refusal of its headers or of its body, that the controller has no recovery, or what it said to the
call.
-/

namespace Threadwire

/-! ## Turns -/

/-- An input that says that the client may be gone. -/
def HttpInput.departs : HttpInput → Bool
  | .requestAborted | .responseClose => true
  | .transport response => response.down
  | _ => false

namespace HttpTurn

variable {maxSseBufferBytes : ℕ} {sink : ResponseSink} {s s' : HttpTurn} {gone gone' : Prop}
  {count : ℕ}

/-- The action begins an answer. -/
def isAnswer : HttpAction → Bool
  | .wroteJson _ | .openedSse => true
  | _ => false

/-- How often the request has been answered. -/
def answers (s : HttpTurn) : ℕ := s.log.countP isAnswer

/-- A record counts where it begins an answer. -/
@[simp] theorem answers_record (action : HttpAction) :
    (s.record action).answers = s.answers + (isAnswer action).toNat := by
  rw [answers, answers, record, List.countP_append, List.countP_singleton]
  cases isAnswer action <;> rfl

/-- The end of a response is no answer of its own. -/
theorem answers_endResponse : (s.endResponse sink).answers = s.answers := answers_record .ended

/-- JSON is one answer. -/
theorem answers_writeJson (statusCode : ℕ) :
    (s.writeJson sink statusCode).answers = s.answers + 1 :=
  answers_endResponse.trans (answers_record _)

/-- A frame belongs to an answer that has begun. -/
theorem answers_writeSseEvent (frame : SseFrame) :
    (s.writeSseEvent maxSseBufferBytes sink frame).2.answers = s.answers := by
  rw [writeSseEvent]
  split
  · exact answers_record _
  · exact answers_record _

/-- So does an event that is delivered. -/
theorem answers_deliverEvent (frame : SseFrame) :
    (s.deliverEvent maxSseBufferBytes sink frame).answers = s.answers := by
  have hwritten := @answers_writeSseEvent maxSseBufferBytes sink s frame
  rw [deliverEvent]
  cases hwrite : s.writeSseEvent maxSseBufferBytes sink frame with
  | mk accepted written =>
    rw [hwrite] at hwritten
    dsimp only
    split
    · exact hwritten
    · exact hwritten

/-- And what was pending. -/
theorem answers_deliverPending (frames : List SseFrame) :
    (s.deliverPending maxSseBufferBytes sink frames).answers = s.answers := by
  induction frames generalizing s with
  | nil => rfl
  | cons frame frames ih =>
    rw [deliverPending]
    split
    · rfl
    · exact ih.trans (answers_deliverEvent frame)

/-- And what is sent on. -/
theorem answers_sendOn (frame : SseFrame) :
    (s.sendOn maxSseBufferBytes sink frame).answers = s.answers := by
  rw [sendOn]
  split_ifs
  · exact answers_deliverEvent frame
  · rfl
  · rfl

/-- And what the listener is called with. -/
theorem answers_listener (event : ResponseStreamEvent) :
    (s.listener maxSseBufferBytes sink event).answers = s.answers := by
  unfold listener
  split_ifs
  · rfl
  · cases event with
    | completed => rfl
    | textDelta text => exact answers_sendOn _
    | finalText text => exact answers_sendOn _

/-- A rollback answers nothing. -/
theorem answers_rollbackCompletion : s.rollbackCompletion.answers = s.answers := by
  rw [rollbackCompletion]
  split
  · rfl
  · split
    · rfl
    · exact answers_record _

/-- Nor does the end of the handler. -/
theorem answers_conclude : (s.conclude sink).answers = s.answers := by
  rw [conclude]
  show (ite _ _ _ : HttpTurn).answers = _
  split
  · exact answers_endResponse.trans answers_rollbackCompletion
  · exact answers_rollbackCompletion

/-- The handler is past the point where it answers, and has answered so often. -/
structure Answered (count : ℕ) (s : HttpTurn) : Prop where
  phase : s.phase ≠ .checking ∧ s.phase ≠ .reading ∧ s.phase ≠ .executing
  answers : s.answers = count

/-- The end comes behind the answer. -/
theorem answered_conclude (h : s.answers = count) : (s.conclude sink).Answered count :=
  ⟨by rw [conclude]; simp, answers_conclude.trans h⟩

/-- So does the frame of an error. -/
theorem answered_failTurn (error : ApiError) (h : s.answers = count) :
    (s.failTurn maxSseBufferBytes sink error).Answered count := by
  have hrolled : s.rollbackCompletion.answers = count := answers_rollbackCompletion.trans h
  rw [failTurn]
  refine answered_conclude ?_
  split
  · exact (answers_writeSseEvent _).trans hrolled
  · exact hrolled

/-- So does a completion that is settled. -/
theorem answered_settleCompletion (result : TurnResult) (h : s.answers = count) :
    (s.settleCompletion sink result).Answered count := by
  rw [settleCompletion]
  refine answered_conclude ?_
  split
  · exact (answers_record _).trans h
  · exact answers_rollbackCompletion.trans h

/-- So does the last frame. -/
theorem answered_finishedSse (result : TurnResult) (delivered : Bool) (h : s.answers = count) :
    (s.finishedSse sink result delivered).Answered count :=
  answered_settleCompletion result ((answers_record _).trans h)

/-- So does the wait for the response to take it. -/
theorem answered_finishSseResponse (result : TurnResult) (h : s.answers = count) :
    (s.finishSseResponse sink result).Answered count := by
  rw [finishSseResponse]
  split
  · exact answered_finishedSse result false h
  · split
    · exact answered_finishedSse result false h
    · exact ⟨by simp [record], (answers_record _).trans h⟩

/-- The completed frame belongs to the answer that has begun. -/
theorem answers_writeCompleted (result : TurnResult) :
    (s.writeCompleted maxSseBufferBytes sink result).answers = s.answers := by
  have hwritten := @answers_writeSseEvent maxSseBufferBytes sink s (.completed result)
  rw [writeCompleted]
  split
  · cases hwrite : s.writeSseEvent maxSseBufferBytes sink (.completed result) with
    | mk accepted written =>
      rw [hwrite] at hwritten
      exact hwritten
  · rfl

/-- A turn that resolves has its answer begun. -/
theorem answered_turnResolved (result : TurnResult) (h : s.answers = count) :
    (s.turnResolved maxSseBufferBytes sink result).Answered count := by
  have hwritten := (@answers_writeCompleted maxSseBufferBytes sink
    { s with result := some result } result).trans h
  rw [turnResolved]
  dsimp only
  split_ifs
  · exact answered_failTurn _ h
  · exact answered_finishSseResponse result hwritten
  · exact answered_settleCompletion result hwritten

/-- What the response says later changes nothing of it. -/
theorem answered_onResponseEvent (delivered : Bool) (h : s.Answered count) :
    (s.onResponseEvent sink delivered).Answered count := by
  rw [onResponseEvent]
  split
  · exact answered_finishedSse _ delivered h.answers
  · exact h

/-- The handler has not come to its answer; where the client is gone, it notices. -/
structure Unanswered (gone : Prop) (s : HttpTurn) : Prop where
  phase : s.phase = .reading ∨ s.phase = .executing
  answers : s.answers = 0
  stream : s.streamOpened = false
  aborted : s.phase = .reading → s.aborted = true → gone
  down : s.response.down = true → gone

/-- How a request for a turn has been answered so far. -/
inductive Answering (gone : Prop) (s : HttpTurn) : Prop where
  | unanswered (h : Unanswered gone s)
  | answered (h : s.Answered 1)
  | deserted (h : s.Answered 0) (hgone : gone)

/-- The client may be gone later. -/
theorem Answering.mono (h : Answering gone s) (hgone : gone → gone') : Answering gone' s := by
  cases h with
  | unanswered h =>
    exact .unanswered ⟨h.phase, h.answers, h.stream, fun hphase habort =>
      hgone (h.aborted hphase habort),
      fun hdown => hgone (h.down hdown)⟩
  | answered h => exact .answered h
  | deserted h hleft => exact .deserted h (hgone hleft)

/-- The body has been read. -/
theorem Unanswered.bodyRead (h : Unanswered gone s) (hreading : s.phase = .reading)
    (body : Except ApiError ControllerTurnRequest) : Answering gone (s.bodyRead sink body) := by
  have hdeserted : s.aborted = true ∨ s.response.down = true →
      Answering gone { s with phase := .settled } := fun hcause =>
    .deserted ⟨by simp, h.answers⟩ (hcause.elim (h.aborted hreading) h.down)
  cases body with
  | error error =>
    simp only [HttpTurn.bodyRead]
    split
    · exact .answered ⟨by simp, (answers_writeJson _).trans (congrArg (· + 1) h.answers)⟩
    · next hdown => exact hdeserted (.inr (by simpa using hdown))
  | ok request =>
    simp only [HttpTurn.bodyRead]
    split
    · next hcause => exact hdeserted (by simpa using hcause)
    · next hstays =>
      obtain ⟨-, hup⟩ : s.aborted = false ∧ s.response.down = false := by simpa using hstays
      refine .unanswered ⟨.inr rfl, (answers_record _).trans h.answers, h.stream, ?_,
        fun hdown => ?_⟩
      · rintro ⟨⟩
      · exact absurd (hup.symm.trans hdown) Bool.false_ne_true

/-- Before its stream is open a handler only keeps what comes. -/
theorem listener_unopened (h : s.streamOpened = false) (event : ResponseStreamEvent) :
    (s.listener maxSseBufferBytes sink event).streamOpened = false ∧
      (s.listener maxSseBufferBytes sink event).response = s.response := by
  have hsend : ∀ frame, (s.sendOn maxSseBufferBytes sink frame).streamOpened = false ∧
      (s.sendOn maxSseBufferBytes sink frame).response = s.response := by
    intro frame
    rw [sendOn, if_neg (ne_true_of_eq_false h)]
    split <;> exact ⟨h, rfl⟩
  unfold listener
  split_ifs
  · exact ⟨h, rfl⟩
  · cases event with
    | completed => exact ⟨h, rfl⟩
    | textDelta text => exact hsend _
    | finalText text => exact hsend _

/-- An input from outside, before the answer. -/
theorem Unanswered.step (h : Unanswered gone s) {input : HttpInput}
    (hinput : input.isExternal = true) (hgone : gone → gone')
    (hdeparts : input.departs = true → gone')
    (hstep : s.step maxSseBufferBytes sink input = some s') : Answering gone' s' := by
  have hstays : Answering gone' s := (Answering.unanswered h).mono hgone
  -- A handler that has not answered reads or executes; the inputs of later phases do not move it.
  have hphase : ∀ phase, phase ≠ .reading → phase ≠ .executing → s.phase ≠ phase := by
    rintro phase hreading hexecuting rfl
    exact h.phase.elim hreading hexecuting
  have hevent : ∀ delivered, s.onResponseEvent sink delivered = s :=
    onResponseEvent_of_phase (hphase _ (by decide) (by decide))
  have haborts : gone' → Answering gone' s.abort := fun hleft =>
    .unanswered ⟨h.phase, h.answers, h.stream, fun _ _ => hleft, fun _ => hleft⟩
  cases input with
  | headers contentType contentEncoding => cases hinput
  | bodyRead body => cases hinput
  | event event =>
    simp only [HttpTurn.step] at hstep
    split_ifs at hstep with hlistens
    obtain rfl := Option.some.inj hstep
    have hexecuting := hlistens.resolve_right (hphase _ (by decide) (by decide))
    -- The stream is not open yet, so the event is kept for later and nothing is written.
    obtain ⟨hstream, hresponse⟩ := @listener_unopened maxSseBufferBytes sink s h.stream event
    have hkept : (s.listener maxSseBufferBytes sink event).phase = .executing :=
      (quiet_listener event).phase.trans hexecuting
    refine .unanswered ⟨.inr hkept, (answers_listener event).trans h.answers, hstream, ?_, ?_⟩
    · rw [hkept]
      rintro ⟨⟩
    · rw [hresponse]
      exact fun hdown => hgone (h.down hdown)
  | returned =>
    simp only [HttpTurn.step] at hstep
    split_ifs at hstep
    obtain rfl := Option.some.inj hstep
    refine .answered ⟨by rw [openStream]; simp, ?_⟩
    rw [openStream]
    -- Opening the stream writes the headers: this is the answer, and the kept events are not.
    exact (answers_deliverPending _).trans ((answers_record _).trans (congrArg (· + 1) h.answers))
  | threw error =>
    -- The error is the answer, unless there is nobody to tell it to.
    simp only [HttpTurn.step] at hstep
    split_ifs at hstep
    obtain rfl := Option.some.inj hstep
    rw [executionThrew]
    split
    · exact .answered ⟨by simp, (answers_writeJson _).trans (congrArg (· + 1) h.answers)⟩
    · next hdown => exact .deserted ⟨by simp, h.answers⟩ (hgone (h.down (by simpa using hdown)))
  | resolved result =>
    simp only [HttpTurn.step] at hstep
    split_ifs at hstep with hstreaming
    exact absurd hstreaming (hphase _ (by decide) (by decide))
  | rejected error =>
    simp only [HttpTurn.step] at hstep
    split_ifs at hstep with hstreaming
    exact absurd hstreaming (hphase _ (by decide) (by decide))
  | requestAborted =>
    obtain rfl := Option.some.inj hstep
    rcases onRequestAborted_cases s with heq | heq
    · rw [heq]
      exact hstays
    · rw [heq]
      exact haborts (hdeparts rfl)
  | responseFinish =>
    obtain rfl := Option.some.inj hstep
    rw [hevent]
    exact hstays
  | responseClose =>
    obtain rfl := Option.some.inj hstep
    rcases onResponseClose_cases s with heq | heq
    · rw [heq, hevent]
      exact hstays
    · rw [heq, onResponseEvent_of_phase (s := s.abort) (hphase _ (by decide) (by decide))]
      exact haborts (hdeparts rfl)
  | responseError =>
    obtain rfl := Option.some.inj hstep
    rw [hevent]
    exact hstays
  | transport response =>
    obtain rfl := Option.some.inj hstep
    exact .unanswered ⟨h.phase, h.answers, h.stream, fun hreading habort =>
      hgone (h.aborted hreading habort),
      hdeparts⟩

/-- An input from outside, after the answer. -/
theorem Answered.step (h : s.Answered count) {input : HttpInput} (hinput : input.isExternal = true)
    (hstep : s.step maxSseBufferBytes sink input = some s') : s'.Answered count := by
  -- Once the answer is given the handler is past the phases that answer.
  obtain ⟨-, hreading, hexecuting⟩ := h.phase
  cases input with
  | headers contentType contentEncoding => cases hinput
  | bodyRead body => cases hinput
  | event event =>
    simp only [HttpTurn.step] at hstep
    split_ifs at hstep
    obtain rfl := Option.some.inj hstep
    have hkept : (s.listener maxSseBufferBytes sink event).phase = s.phase :=
      (quiet_listener event).phase
    exact ⟨by rw [hkept]; exact h.phase, (answers_listener event).trans h.answers⟩
  | returned =>
    simp only [HttpTurn.step] at hstep
    split_ifs at hstep with hphase
    exact absurd hphase hexecuting
  | threw error =>
    simp only [HttpTurn.step] at hstep
    split_ifs at hstep with hphase
    exact absurd hphase hexecuting
  | resolved result =>
    simp only [HttpTurn.step] at hstep
    split_ifs at hstep
    obtain rfl := Option.some.inj hstep
    exact answered_turnResolved result h.answers
  | rejected error =>
    simp only [HttpTurn.step] at hstep
    split_ifs at hstep
    obtain rfl := Option.some.inj hstep
    exact answered_failTurn error h.answers
  | requestAborted =>
    obtain rfl := Option.some.inj hstep
    rcases onRequestAborted_cases s with heq | heq
    · rw [heq]
      exact h
    · rw [heq]
      exact ⟨h.phase, h.answers⟩
  | responseFinish =>
    obtain rfl := Option.some.inj hstep
    exact answered_onResponseEvent true h
  | responseClose =>
    obtain rfl := Option.some.inj hstep
    refine answered_onResponseEvent false ?_
    rcases onResponseClose_cases s with heq | heq
    · rw [heq]
      exact h
    · rw [heq]
      exact ⟨h.phase, h.answers⟩
  | responseError =>
    obtain rfl := Option.some.inj hstep
    exact answered_onResponseEvent false h
  | transport response =>
    obtain rfl := Option.some.inj hstep
    exact ⟨h.phase, h.answers⟩

/-- One input of the handler, whatever its phase. -/
theorem Answering.step (h : Answering gone s) {input : HttpInput} (hinput : input.isExternal = true)
    (hgone : gone → gone') (hdeparts : input.departs = true → gone')
    (hstep : s.step maxSseBufferBytes sink input = some s') : Answering gone' s' := by
  cases h with
  | unanswered h => exact h.step hinput hgone hdeparts hstep
  | answered h => exact .answered (h.step hinput hstep)
  | deserted h hleft => exact .deserted (h.step hinput hstep) (hgone hleft)

end HttpTurn

/-! ## Projects and recoveries -/

/-- An input that says that the client may be gone. -/
def JsonInput.departs : JsonInput → Bool
  | .requestAborted | .responseClose => true
  | .transport response => response.destroyed
  | _ => false

/-- What the controller says to a call is the answer. -/
inductive JsonInput.Says (operation : JsonOperation) : JsonInput → ℕ → Json.Value → Prop where
  | created (hoperation : operation = .createProject) (projectHandle : ProjectHandle) :
      Says operation (.created projectHandle) 201 (projectJson projectHandle)
  | recovered (hoperation : operation = .recoverRuntime) (health : ControllerHealth) :
      Says operation (.recovered health) 200 health.toJson
  | rejected (error : ApiError) :
      Says operation (.rejected error) (preStreamStatus error) (errorJson error)

namespace JsonHandler

variable {options : ServerOptions} {s s' : JsonHandler} {gone gone' : Prop}
  {responds responds' : ℕ → Json.Value → Prop}

/-- The answers that the handler has written. -/
def answers (s : JsonHandler) : List (ℕ × Json.Value) :=
  s.log.filterMap fun
    | .wroteJson statusCode body => some (statusCode, body)
    | .called _ => none

/-- The handler has not come to its answer; where the client is gone, it notices. -/
structure Unanswered (gone : Prop) (s : JsonHandler) : Prop where
  phase : s.phase ≠ .settled
  answers : s.answers = []
  headersSent : s.headersSent = false
  gone : s.aborted = true ∨ s.requestAborted = true ∨ s.response.destroyed = true → gone

/-- How the request has been answered so far. -/
inductive Answering (gone : Prop) (responds : ℕ → Json.Value → Prop) (s : JsonHandler) : Prop where
  | unanswered (h : Unanswered gone s)
  | answered (statusCode : ℕ) (body : Json.Value) (hphase : s.phase = .settled)
      (hanswers : s.answers = [(statusCode, body)]) (hresponds : responds statusCode body)
  | deserted (hphase : s.phase = .settled) (hanswers : s.answers = []) (hgone : gone)

/-- What is answered may be said of more. -/
theorem Answering.mono (h : Answering gone responds s) (hgone : gone → gone')
    (hresponds : ∀ statusCode body, responds statusCode body → responds' statusCode body) :
    Answering gone' responds' s := by
  cases h with
  | unanswered h =>
    exact .unanswered ⟨h.phase, h.answers, h.headersSent, fun hcause => hgone (h.gone hcause)⟩
  | answered statusCode body hphase hanswers h =>
    exact .answered statusCode body hphase hanswers (hresponds _ _ h)
  | deserted hphase hanswers h => exact .deserted hphase hanswers (hgone h)

/-- The handler writes its answer. -/
theorem Unanswered.writeJson (h : Unanswered gone s) {statusCode : ℕ} {body : Json.Value}
    (hresponds : responds statusCode body) :
    Answering gone' responds (s.writeJson options statusCode body).settle := by
  refine .answered statusCode body rfl ?_ hresponds
  rw [JsonHandler.writeJson, if_neg (ne_true_of_eq_false h.headersSent)]
  show List.filterMap _ (s.log ++ _) = _
  rw [List.filterMap_append]
  exact congrArg (· ++ _) h.answers

/-- The body has been read. -/
theorem Unanswered.bodyRead (h : Unanswered gone s) (body : Except ApiError JsonCall)
    (herror : ∀ error, body = .error error →
      responds (HttpTurn.bodyErrorStatus error) (errorJson (bodyError error)))
    (hunavailable : ∀ call, body = .ok call → s.operation = .recoverRuntime →
      options.recoverRuntime = false →
        responds 500 (errorJson (.thrown (.plain "Runtime recovery unavailable.")))) :
    Answering gone responds (s.bodyRead options body) := by
  cases body with
  | error error =>
    simp only [JsonHandler.bodyRead]
    split
    · next hcause =>
      refine .deserted rfl h.answers (h.gone ?_)
      rcases (Bool.or_eq_true _ _).mp hcause with haborted | hdestroyed
      · exact .inl haborted
      · exact .inr (.inr hdestroyed)
    · exact h.writeJson (herror error rfl)
  | ok call =>
    simp only [JsonHandler.bodyRead]
    split_ifs with hcause hmissing
    · refine .deserted rfl h.answers (h.gone ?_)
      rcases (Bool.or_eq_true _ _).mp hcause with hcause | hdestroyed
      · exact ((Bool.or_eq_true _ _).mp hcause).imp_right .inl
      · exact .inr (.inr hdestroyed)
    · exact h.writeJson (hunavailable call rfl hmissing.1 hmissing.2)
    · refine .unanswered ⟨by simp, ?_, h.headersSent, h.gone⟩
      show List.filterMap _ (s.log ++ _) = _
      rw [List.filterMap_append]
      exact congrArg (· ++ []) h.answers

/-- A handler that is at its call has not answered. -/
theorem Answering.executing (h : Answering gone responds s) (hphase : s.phase = .executing) :
    Unanswered gone s := by
  cases h with
  | unanswered h => exact h
  | answered statusCode body hsettled =>
    rw [hphase] at hsettled
    cases hsettled
  | deserted hsettled =>
    rw [hphase] at hsettled
    cases hsettled

/-- The client may be gone, and nothing else happens. -/
theorem Answering.leave (h : Answering gone responds s) (hleft : gone')
    (hresponds : ∀ statusCode body, responds statusCode body → responds' statusCode body)
    (hphase : s'.phase = s.phase) (hlog : s'.log = s.log)
    (hheaders : s'.headersSent = s.headersSent) :
    Answering gone' responds' s' := by
  have hanswers : s'.answers = s.answers := by rw [answers, answers, hlog]
  cases h with
  | unanswered h =>
    exact .unanswered ⟨by rw [hphase]; exact h.phase, hanswers.trans h.answers,
      hheaders.trans h.headersSent, fun _ => hleft⟩
  | answered statusCode body hsettled hanswered h =>
    exact .answered statusCode body (hphase.trans hsettled) (hanswers.trans hanswered)
      (hresponds _ _ h)
  | deserted hsettled hanswered =>
    exact .deserted (hphase.trans hsettled) (hanswers.trans hanswered) hleft

/-- An input from outside. -/
theorem Answering.step (h : Answering gone responds s) {input : JsonInput}
    (hinput : input.isExternal = true) (hgone : gone → gone')
    (hdeparts : input.departs = true → gone')
    (hresponds : ∀ statusCode body, responds statusCode body → responds' statusCode body)
    (hsaid : ∀ statusCode body, input.Says s.operation statusCode body → responds' statusCode body)
    (hstep : s.step options input = some s') : Answering gone' responds' s' := by
  cases input with
  | bodyRead body => cases hinput
  | created projectHandle =>
    simp only [JsonHandler.step] at hstep
    split_ifs at hstep with hcreating
    obtain rfl := Option.some.inj hstep
    exact (h.executing hcreating.1).writeJson (hsaid _ _ (.created hcreating.2 projectHandle))
  | recovered health =>
    simp only [JsonHandler.step] at hstep
    split_ifs at hstep with hrecovering
    obtain rfl := Option.some.inj hstep
    exact (h.executing hrecovering.1).writeJson (hsaid _ _ (.recovered hrecovering.2 health))
  | rejected error =>
    simp only [JsonHandler.step] at hstep
    split_ifs at hstep with hexecuting
    obtain rfl := Option.some.inj hstep
    have hopen := h.executing hexecuting
    rw [JsonHandler.rejected]
    split
    · next hdestroyed =>
        exact .deserted rfl hopen.answers (hgone (hopen.gone (.inr (.inr hdestroyed))))
    · exact hopen.writeJson (hsaid _ _ (.rejected error))
  | requestAborted =>
    obtain rfl := Option.some.inj hstep
    refine h.leave (hdeparts rfl) hresponds ?_ ?_ ?_
    all_goals rw [onRequestAborted]; split <;> rfl
  | responseClose =>
    obtain rfl := Option.some.inj hstep
    refine h.leave (hdeparts rfl) hresponds ?_ ?_ ?_
    all_goals rw [onResponseClose]; split <;> rfl
  | transport response =>
    obtain rfl := Option.some.inj hstep
    -- Only the response itself has changed: it may be destroyed now, which counts as a departure.
    cases h with
    | unanswered h =>
      refine .unanswered ⟨h.phase, h.answers, h.headersSent, ?_⟩
      rintro (haborted | hrequest | hdestroyed)
      · exact hgone (h.gone (.inl haborted))
      · exact hgone (h.gone (.inr (.inl hrequest)))
      · exact hdeparts hdestroyed
    | answered statusCode body hphase hanswers h =>
      exact .answered statusCode body hphase hanswers (hresponds _ _ h)
    | deserted hphase hanswers hleft => exact .deserted hphase hanswers (hgone hleft)

end JsonHandler

/-! ## Exchanges -/

/-- An input that says that the client may be gone. -/
def ExchangeInput.departs : ExchangeInput → Bool
  | .json input => input.departs
  | .turn input => input.departs
  | _ => false

namespace HttpExchange

variable {options : ServerOptions} {exchange exchange' : HttpExchange} {change : ℕ → ℕ}
  {past : List ExchangeInput} {request : IncomingRequest} {operation : JsonOperation}

/-- How often the request has been answered. -/
def answers (exchange : HttpExchange) : ℕ :=
  match exchange.handling with
  | .answered _ _ => 1
  | .checkingHealth => 0
  | .json handler => handler.answers.length
  | .turn turn _ => turn.answers

/-- Nothing more is done for the request. -/
def isOver (exchange : HttpExchange) : Bool :=
  match exchange.handling with
  | .answered _ _ => true
  | .checkingHealth => false
  | .json handler => handler.phase == .settled
  | .turn turn _ => turn.phase == .settled

/-- The client may be gone. -/
def Departed (past : List ExchangeInput) : Prop := ∃ input ∈ past, input.departs = true

/-- What reading the body came to. -/
inductive ReadAs (options : ServerOptions) (past : List ExchangeInput) : Except ApiError Text →
    Prop where
  | ended (before : List ExchangeInput) (h : before ++ [.bodyEnd] <+: past) :
      ReadAs options past (readBody options.maxBodyBytes (chunksOf before))
  | failed (before : List ExchangeInput) (error : ThrownError)
      (h : before ++ [.bodyFailed error] <+: past) : ReadAs options past (.error (.thrown error))

/-- What a request for a project or a recovery is answered. -/
inductive Responds (options : ServerOptions) (request : IncomingRequest) (operation : JsonOperation)
    (past : List ExchangeInput) : ℕ → Json.Value → Prop where
  | headers (h : ¬ request.hasJsonHeaders) :
      Responds options request operation past 415 (errorJson (.request .API_REQUEST_INVALID 415))
  | body (text : Except ApiError Text) (error : ApiError) (hread : ReadAs options past text)
      (herror : text.bind (parseBody (operation.parse options.unicode)) = .error error) :
      Responds options request operation past (HttpTurn.bodyErrorStatus error)
        (errorJson (JsonHandler.bodyError error))
  | unavailable (hoperation : operation = .recoverRuntime)
    (hnone : options.recoverRuntime = false) :
      Responds options request operation past 500
        (errorJson (.thrown (.plain "Runtime recovery unavailable.")))
  | said (input : JsonInput) (hinput : .json input ∈ past) (statusCode : ℕ) (body : Json.Value)
      (hsaid : input.Says operation statusCode body) :
      Responds options request operation past statusCode body

/-- Who has departed has departed. -/
theorem Departed.concat (h : Departed past) (input : ExchangeInput) :
    Departed (past ++ [input]) := by
  obtain ⟨old, hold, hdeparts⟩ := h
  exact ⟨old, List.mem_append_left _ hold, hdeparts⟩

/-- An input that says so. -/
theorem departed_concat {input : ExchangeInput} (h : input.departs = true) :
    Departed (past ++ [input]) :=
  ⟨input, List.mem_append_right _ (List.mem_singleton_self input), h⟩

/-- An answer that was due stays due. -/
theorem Responds.concat {statusCode : ℕ} {body : Json.Value}
    (h : Responds options request operation past statusCode body) (input : ExchangeInput) :
    Responds options request operation (past ++ [input]) statusCode body := by
  have hpast : past <+: past ++ [input] := List.prefix_append past [input]
  cases h with
  | headers h => exact .headers h
  | body text error hread herror =>
    refine .body text error ?_ herror
    cases hread with
    | ended before h => exact .ended before (h.trans hpast)
    | failed before error h => exact .failed before error (h.trans hpast)
  | unavailable hoperation hnone => exact .unavailable hoperation hnone
  | said old hold statusCode body hsaid =>
    exact .said old (List.mem_append_left _ hold) statusCode body hsaid

/-- How far the answer to a request is. -/
inductive Answering (options : ServerOptions) (past : List ExchangeInput)
    (exchange : HttpExchange) :
    Prop where
  | answered (statusCode : ℕ) (body : Json.Value)
      (hhandling : exchange.handling = .answered statusCode body)
  | checkingHealth (hhandling : exchange.handling = .checkingHealth)
  | json (handler : JsonHandler) (hhandling : exchange.handling = .json handler)
      (hreader : handler.phase = .reading →
        exchange.reader = BodyReader.pushAll options.maxBodyBytes {} (chunksOf past))
      (h : handler.Answering (Departed past)
        (Responds options exchange.request handler.operation past))
  | turn (turn : HttpTurn) (released : Bool) (hhandling : exchange.handling = .turn turn released)
      (h : turn.Answering (Departed past))

/-! ### Arrivals -/

/-- A project or a recovery begins unanswered, or is refused at once. -/
theorem answering_handleJson (inflightTurns : ℕ) (request : IncomingRequest) :
    Answering options [] (handleJson options operation inflightTurns request).1 := by
  rw [handleJson]
  split
  · exact .answered _ _ rfl
  · refine .json _ rfl (fun _ => rfl) ?_
    have hopen : JsonHandler.Unanswered (Departed []) { operation } := ⟨by simp, rfl, rfl, by simp⟩
    unfold JsonHandler.checkHeaders
    split
    · next hheaders =>
      refine hopen.writeJson (.headers ?_)
      rintro ⟨htype, hencoding⟩
      rcases hheaders with hno | ⟨hsome, hother⟩
      · exact Bool.false_ne_true (hno.symm.trans htype)
      · exact hencoding.elim hsome hother
    · exact .unanswered hopen

/-- So does a turn. -/
theorem answering_handleTurn (inflightTurns : ℕ) (request : IncomingRequest) :
    Answering options [] (handleTurn options inflightTurns request).1 := by
  rw [handleTurn]
  split
  · exact .answered _ _ rfl
  · refine .turn _ false rfl ?_
    rw [HttpTurn.checkHeaders]
    split_ifs
    · exact .answered ⟨by simp, HttpTurn.answers_writeJson 415⟩
    · exact .answered ⟨by simp, HttpTurn.answers_writeJson 415⟩
    · exact .unanswered ⟨.inl rfl, rfl, rfl, by simp, by simp [ResponseState.down]⟩

/-- So does every request, but health, which is asked for first. -/
theorem answering_handleRequest (inflightTurns : ℕ) (arrival : Arrival) :
    Answering options [] (handleRequest options inflightTurns arrival).1 := by
  rw [handleRequest]
  split
  · exact .answered _ _ rfl
  · split
    · exact .answered _ _ rfl
    · split
      · exact .answered _ _ rfl
      · cases routeOf arrival.request.method _ with
        | health => exact .checkingHealth rfl
        | threads => exact .answered _ _ rfl
        | json operation => exact answering_handleJson inflightTurns arrival.request
        | turns => exact answering_handleTurn inflightTurns arrival.request
        | refused statusCode => exact .answered _ _ rfl

/-! ### Moves -/

/-- Reading its body does not change the operation. -/
theorem operation_bodyRead (handler : JsonHandler) (body : Except ApiError JsonCall) :
    (handler.bodyRead options body).operation = handler.operation := by
  cases body with
  | error error =>
    simp only [JsonHandler.bodyRead]
    split
    · rfl
    · exact JsonHandler.operation_writeJson _ _
  | ok call =>
    simp only [JsonHandler.bodyRead]
    split_ifs
    · rfl
    · exact JsonHandler.operation_writeJson _ _
    · rfl

/-- The body has been read, or reading it failed. -/
theorem Answering.moveBody (h : Answering options past exchange) {input : ExchangeInput}
    {text : Except ApiError Text}
    (htext : exchange.reader = BodyReader.pushAll options.maxBodyBytes {} (chunksOf past) →
      ReadAs options (past ++ [input]) text)
    (hmove : moveBody options exchange text = some (exchange', change)) :
    Answering options (past ++ [input]) exchange' := by
  unfold HttpExchange.moveBody at hmove
  cases h with
  -- Only an exchange that reads its body moves here.
  | answered statusCode body hhandling => rw [hhandling] at hmove; cases hmove
  | checkingHealth hhandling => rw [hhandling] at hmove; cases hmove
  | json handler hhandling hreader h =>
    rw [hhandling] at hmove
    obtain ⟨handler', hstep, heq⟩ := Option.map_eq_some_iff.mp hmove
    obtain ⟨rfl, rfl⟩ := Prod.mk.inj heq
    simp only [JsonHandler.step] at hstep
    split_ifs at hstep with hphase
    obtain rfl := Option.some.inj hstep
    -- The body is what the chunks of the past make, or the error of reading them.
    have hread := htext (hreader hphase)
    obtain ⟨hafter, -⟩ := JsonHandler.bodyRead_spec options handler
      (text.bind (parseBody (handler.operation.parse options.unicode)))
    refine .json _ rfl (fun hreading => absurd hreading hafter) ?_
    rw [operation_bodyRead]
    cases h with
    -- The handler has not answered yet: this step answers, calls the controller, or finds it
    -- missing.
    | unanswered h =>
      have hopen : JsonHandler.Unanswered (Departed (past ++ [input])) handler :=
        ⟨h.phase, h.answers, h.headersSent, fun hcause => (h.gone hcause).concat input⟩
      exact hopen.bodyRead _ (fun error herror => .body text error hread herror)
        fun call _ hoperation hnone => .unavailable hoperation hnone
    | answered statusCode body hsettled => rw [hphase] at hsettled; cases hsettled
    | deserted hsettled => rw [hphase] at hsettled; cases hsettled
  | turn turn released hhandling h =>
    rw [hhandling] at hmove
    obtain ⟨turn', hstep, heq⟩ := Option.map_eq_some_iff.mp hmove
    obtain ⟨rfl, rfl⟩ := Prod.mk.inj heq
    simp only [HttpTurn.step] at hstep
    split_ifs at hstep with hphase
    obtain rfl := Option.some.inj hstep
    refine .turn _ released rfl ?_
    -- A turn that is reading has not answered.
    cases h with
    | unanswered h => exact (h.bodyRead hphase _).mono fun hgone => hgone.concat input
    | answered h => exact absurd hphase h.phase.2.1
    | deserted h => exact absurd hphase h.phase.2.1

/-- The step lemma. -/
theorem Answering.move (h : Answering options past exchange) {input : ExchangeInput}
    (hmove : exchange.move options input = some (exchange', change)) :
    Answering options (past ++ [input]) exchange' := by
  cases input with
  | bodyEnd =>
    exact h.moveBody (fun hreader => hreader ▸ .ended past (List.prefix_refl _)) hmove
  | bodyFailed error => exact h.moveBody (fun _ => .failed past error (List.prefix_refl _)) hmove
  | health outcome =>
    simp only [HttpExchange.move] at hmove
    split at hmove
    · obtain ⟨rfl, rfl⟩ := Prod.mk.inj (Option.some.inj hmove)
      exact .answered _ _ rfl
    · obtain ⟨rfl, rfl⟩ := Prod.mk.inj (Option.some.inj hmove)
      exact .answered _ _ rfl
    · cases hmove
  | chunk bytes =>
    simp only [HttpExchange.move] at hmove
    split_ifs at hmove
    obtain ⟨rfl, rfl⟩ := Prod.mk.inj (Option.some.inj hmove)
    cases h with
    | answered statusCode body hhandling => exact .answered statusCode body hhandling
    | checkingHealth hhandling => exact .checkingHealth hhandling
    | json handler hhandling hreader h =>
      refine .json handler hhandling (fun hreading => ?_)
        (h.mono (·.concat _) fun _ _ => (·.concat _))
      -- The reader has been given exactly the chunks of the past, as long as the handler reads.
      rw [chunksOf_concat]
      show BodyReader.push _ exchange.reader _ = _
      rw [BodyReader.pushAll, List.foldl_append, hreader hreading]
      rfl
    | turn turn released hhandling h => exact .turn turn released hhandling (h.mono (·.concat _))
  | json input =>
    simp only [HttpExchange.move] at hmove
    split at hmove
    · next handler hhandling =>
      split_ifs at hmove with hinput
      obtain ⟨handler', hstep, heq⟩ := Option.map_eq_some_iff.mp hmove
      obtain ⟨rfl, rfl⟩ := Prod.mk.inj heq
      have hquiet := JsonHandler.step_external hinput hstep
      cases h with
      | answered statusCode body hother => rw [hhandling] at hother; cases hother
      | checkingHealth hother => rw [hhandling] at hother; cases hother
      | turn turn released hother => rw [hhandling] at hother; cases hother
      | json handler₁ hhandling₁ hreader h =>
        -- The exchange is at one handler, so the two are the same.
        obtain rfl : handler = handler₁ := Handling.json.inj (hhandling.symm.trans hhandling₁)
        refine .json handler' rfl (fun hreading => ?_) ?_
        · rw [chunksOf_concat, show chunksOf [ExchangeInput.json input] = [] from rfl,
            List.append_nil]
          exact hreader (hquiet.reading.mp hreading)
        · rw [hquiet.operation]
          have hdeparts : input.departs = true → Departed (past ++ [.json input]) := fun hleft =>
            departed_concat hleft
          exact h.step hinput (·.concat _) hdeparts (fun _ _ => (·.concat _))
            (fun statusCode body hsaid => .said input
              (List.mem_append_right _ (List.mem_singleton_self _)) statusCode body hsaid) hstep
    · cases hmove
  | turn input =>
    simp only [HttpExchange.move] at hmove
    split at hmove
    · next turn released hhandling =>
      split_ifs at hmove with hinput
      obtain ⟨turn', hstep, heq⟩ := Option.map_eq_some_iff.mp hmove
      obtain ⟨rfl, rfl⟩ := Prod.mk.inj heq
      cases h with
      | answered statusCode body hother => rw [hhandling] at hother; cases hother
      | checkingHealth hother => rw [hhandling] at hother; cases hother
      | json handler hother => rw [hhandling] at hother; cases hother
      | turn turn₁ released₁ hhandling₁ h =>
        obtain ⟨rfl, rfl⟩ := Handling.turn.inj (hhandling.symm.trans hhandling₁)
        have hdeparts : input.departs = true → Departed (past ++ [.turn input]) := fun hleft =>
          departed_concat hleft
        exact .turn turn' released rfl (h.step hinput (·.concat _) hdeparts hstep)
    · cases hmove
  | release =>
    simp only [HttpExchange.move] at hmove
    split at hmove
    · next turn hhandling =>
      split_ifs at hmove
      obtain ⟨rfl, rfl⟩ := Prod.mk.inj (Option.some.inj hmove)
      cases h with
      | answered statusCode body hother => rw [hhandling] at hother; cases hother
      | checkingHealth hother => rw [hhandling] at hother; cases hother
      | json handler hother => rw [hhandling] at hother; cases hother
      | turn turn₁ released₁ hhandling₁ h =>
        obtain ⟨rfl, rfl⟩ := Handling.turn.inj (hhandling.symm.trans hhandling₁)
        exact .turn turn true rfl (h.mono (·.concat _))
    · cases hmove

/-- The run lemma. -/
theorem answering_own {inflightTurns : ℕ} {arrival : Arrival} {inputs : List ExchangeInput}
    (hrun : Machine.exec (ThreadwireHttpServer.rules options).own
      (handleRequest options inflightTurns arrival).1 inputs = some exchange) :
    Answering options inputs exchange := by
  refine Machine.exec_history (answering_handleRequest inflightTurns arrival) ?_ hrun
  intro past before input after _ hanswering hstep
  obtain ⟨⟨exchange', change⟩, hmove, rfl⟩ := Option.map_eq_some_iff.mp hstep
  exact hanswering.move hmove

/-- What the stages of an answer say. -/
theorem Answering.once (h : Answering options past exchange) : exchange.answers ≤ 1 ∧
    (exchange.isOver = true → exchange.answers = 1 ∨ Departed past) := by
  cases h with
  | answered statusCode body hhandling =>
    have hone : exchange.answers = 1 := by rw [answers, hhandling]
    exact ⟨hone.le, fun _ => .inl hone⟩
  | checkingHealth hhandling =>
    -- The health of the controller is still being asked for.
    have hnone : exchange.answers = 0 := by rw [answers, hhandling]
    have hopen : exchange.isOver = false := by rw [isOver, hhandling]
    exact ⟨hnone.le.trans (Nat.zero_le 1), fun hover => absurd (hopen.symm.trans hover) (by simp)⟩
  | json handler hhandling hreader h =>
    have hcount : exchange.answers = handler.answers.length := by rw [answers, hhandling]
    have hphase : exchange.isOver = (handler.phase == .settled) := by rw [isOver, hhandling]
    cases h with
    | unanswered h =>
      rw [hcount, h.answers, hphase]
      exact ⟨Nat.zero_le 1, fun hover => absurd (beq_iff_eq.mp hover) h.phase⟩
    | answered statusCode body hsettled hanswers =>
      rw [hcount, hanswers]
      exact ⟨le_rfl, fun _ => .inl rfl⟩
    | deserted hsettled hanswers hgone =>
      rw [hcount, hanswers]
      exact ⟨Nat.zero_le 1, fun _ => .inr hgone⟩
  | turn turn released hhandling h =>
    have hcount : exchange.answers = turn.answers := by rw [answers, hhandling]
    have hphase : exchange.isOver = (turn.phase == .settled) := by rw [isOver, hhandling]
    cases h with
    | unanswered h =>
      have hopen : turn.phase ≠ .settled := by
        rcases h.phase with hreading | hexecuting
        · rw [hreading]
          decide
        · rw [hexecuting]
          decide
      rw [hcount, h.answers, hphase]
      exact ⟨Nat.zero_le 1, fun hover => absurd (beq_iff_eq.mp hover) hopen⟩
    | answered h =>
      rw [hcount, h.answers]
      exact ⟨le_rfl, fun _ => .inl rfl⟩
    | deserted h hgone =>
      rw [hcount, h.answers]
      exact ⟨Nat.zero_le 1, fun _ => .inr hgone⟩

/-- What a handler has answered, it may answer. -/
theorem Answering.responds (h : Answering options past exchange) {handler : JsonHandler}
    (hhandling : exchange.handling = .json handler) {statusCode : ℕ} {body : Json.Value}
    (hanswer : (statusCode, body) ∈ handler.answers) :
    Responds options exchange.request handler.operation past statusCode body := by
  cases h with
  | answered statusCode body hother => rw [hhandling] at hother; cases hother
  | checkingHealth hother => rw [hhandling] at hother; cases hother
  | turn turn released hother => rw [hhandling] at hother; cases hother
  | json handler₁ hhandling₁ hreader h =>
    obtain rfl : handler = handler₁ := Handling.json.inj (hhandling.symm.trans hhandling₁)
    cases h with
    | unanswered h =>
      rw [h.answers] at hanswer
      cases hanswer
    -- only here was an answer written, the one that the stage says
    | answered statusCode₁ body₁ hphase hanswers hresponds =>
      rw [hanswers, List.mem_singleton] at hanswer
      cases hanswer
      exact hresponds
    | deserted hphase hanswers =>
      rw [hanswers] at hanswer
      cases hanswer

end HttpExchange

namespace ThreadwireHttpServer

open Machine.Family (inputsOf)

/-- In every run, whatever order the requests move on in: no request is answered twice, one that is
over has been answered unless its client may be gone, and a project creation or a recovery that has
got a place is answered with what its headers, its body or the controller say, or that the
controller cannot recover. -/
theorem server_answers {options : ServerOptions} {server : ThreadwireHttpServer}
    {inputs : List ServerInput} {position : ℕ} {exchange : HttpExchange}
    (hrun : Machine.exec (step options) initial inputs = some server)
    (hexchange : server.members[position]? = some exchange) :
    exchange.answers ≤ 1 ∧
      (exchange.isOver = true →
        exchange.answers = 1 ∨ HttpExchange.Departed (inputsOf position inputs)) ∧
      ∀ handler, exchange.handling = .json handler → ∀ statusCode body,
        (statusCode, body) ∈ handler.answers →
          HttpExchange.Responds options exchange.request handler.operation
            (inputsOf position inputs) statusCode body := by
  obtain ⟨arrival, inflightTurns, -, hown⟩ :=
    (Machine.Family.members_run hrun).2 position exchange hexchange
  have hanswering := HttpExchange.answering_own hown
  exact ⟨hanswering.once.1, hanswering.once.2, fun handler hhandling statusCode body hanswer =>
    hanswering.responds hhandling hanswer⟩

/-- A recovery whose body turns out not to be JSON. It is over and nobody has left, so it has been
answered, with the refusal of its body. -/
theorem server_answers_recovery : ∃ (server : ThreadwireHttpServer) (exchange : HttpExchange),
    Machine.exec (step (ServerOptions.plain 1 Nat.one_pos)) initial
        [.join recoveryArrival, .move 0 (.chunk [0x7B]), .move 0 .bodyEnd] = some server ∧
      server.members[0]? = some exchange ∧ exchange.isOver = true ∧ exchange.answers = 1 ∧
      HttpExchange.Responds (ServerOptions.plain 1 Nat.one_pos) exchange.request .recoverRuntime
        [.chunk [0x7B], .bodyEnd] 400 (errorJson requestInvalid) := by
  have hrun : Machine.exec (step (ServerOptions.plain 1 Nat.one_pos)) initial
    [.join recoveryArrival, .move 0 (.chunk [0x7B]), .move 0 .bodyEnd] = some _ := rfl
  obtain ⟨-, hover, hresponds⟩ := @server_answers _ _ _ 0 _ hrun rfl
  refine ⟨_, _, rfl, rfl, rfl, (hover rfl).resolve_right ?_, hresponds _ rfl 400 _ ?_⟩
  · rintro ⟨input, hinput, hdeparts⟩
    revert input
    decide
  · exact List.mem_cons_self

end ThreadwireHttpServer

end Threadwire
