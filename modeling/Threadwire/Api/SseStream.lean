import Threadwire.Api.HttpCompletion
import Threadwire.Api.SseWire
import Threadwire.Machine.Trace

/-!
# What the client of a turn sees

The frames a turn writes are a prefix of the text events its listener was given, and after them at
most the one that ends the turn. The handler goes through three stages: it buffers what the listener
is given, it sends on what was buffered and what comes, and in the end the response is down and
nothing is written any more, however late the listener is called.
-/

namespace Threadwire

/-- What the documentation of a response says: a response that is destroyed or ended stays so, and
`end` does not throw on one that is open and ends it. -/
structure ResponseSink.AsDocumented (sink : ResponseSink) : Prop where
  write_down : ∀ call response text, response.down = true → (sink.write call response text).down = true
  finish_some : ∀ call response, response.down = false → (sink.finish call response).isSome = true
  finish_down : ∀ call response ended, sink.finish call response = some ended → ended.down = true

/-- The text event an input gives to the listener. -/
def HttpInput.textEvent? : HttpInput → Option TextEvent
  | .event (.textDelta text) => some (.textDelta text)
  | .event (.finalText text) => some (.finalText text)
  | _ => none

/-- The text events the listener was given. -/
def textEvents (inputs : List HttpInput) : List TextEvent := inputs.filterMap HttpInput.textEvent?

/-- An event that ends a turn. `COMPLETED` is for a turn that resolved after the listener had been
given `COMPLETED`. -/
def EndsTurn (inputs : List HttpInput) (event : ClientEvent) : Prop :=
  (∃ error, event = .error (publicErrorText error)) ∨
    ∃ result before after, event = .completed (SseFrame.completed result).data ∧
      inputs = before ++ .resolved result :: after ∧ .event .completed ∈ before

/-- The client sees a prefix of the text events, and after them at most the end of the turn. -/
def FaithfulPrefix (inputs : List HttpInput) (seen : List ClientEvent) : Prop :=
  ∃ shown last, seen = shown.map .text ++ last.toList ∧ shown <+: textEvents inputs ∧
    ∀ event, last = some event → EndsTurn inputs event

namespace HttpAction

/-- Whether an action is about a frame. -/
def isSse : HttpAction → Bool
  | .wroteSse _ | .refusedSse _ => true
  | _ => false

/-- The frame an action wrote. -/
def frame? : HttpAction → Option SseFrame
  | .wroteSse frame => some frame
  | _ => none

end HttpAction

namespace HttpTurn

/-- Whether the controller has the listener. -/
def hasListener (s : HttpTurn) : Bool :=
  s.log.any fun action =>
    match action with
    | .executeTurn _ => true
    | _ => false

/-- One input, where the controller may call the listener at any time after it got it, also when
the turn is over, and where a response that is down stays down. -/
def stepLate (maxSseBufferBytes : ℕ) (sink : ResponseSink) (s : HttpTurn) :
    HttpInput → Option HttpTurn
  | .event event =>
    if s.hasListener then some (s.listener maxSseBufferBytes sink event) else none
  | .transport response =>
    if s.response.down && !response.down then none else some { s with response }
  | input => s.step maxSseBufferBytes sink input

/-- The frames that were written. -/
def framesWritten (s : HttpTurn) : List SseFrame := s.log.filterMap HttpAction.frame?

/-- What a client has got. A response takes the frames that are written to it until it is down, and
none after that: it has taken the first `taken` of them. -/
def wire (taken : ℕ) (s : HttpTurn) : Text := (s.framesWritten.take taken).flatMap SseFrame.text

/-- No frame is written after one was refused. -/
def NothingAfterRefusal (past : List HttpAction) (action : HttpAction) : Prop :=
  ∀ frame refused, action = .wroteSse frame → .refusedSse refused ∉ past

/-- The frames of the text events the listener was given. -/
def given (inputs : List HttpInput) : List SseFrame := (textEvents inputs).map TextEvent.frame

variable {maxSseBufferBytes : ℕ} {sink : ResponseSink} {s s' : HttpTurn} {inputs : List HttpInput}
  {frames : List SseFrame}

/-- One input more gives its text event, if it has one. -/
theorem given_snoc (inputs : List HttpInput) (input : HttpInput) :
    given (inputs ++ [input]) = given inputs ++ (input.textEvent?.map TextEvent.frame).toList := by
  rw [given, textEvents, List.filterMap_append, List.map_append]
  cases h : input.textEvent? <;> simp [given, textEvents, h]

/-- An input without a text event gives nothing. -/
theorem given_snoc_none {input : HttpInput} (h : input.textEvent? = none) :
    given (inputs ++ [input]) = given inputs := by
  rw [given_snoc, h]
  simp

/-! ## Steps that write nothing -/

/-- The handler can still write: the listener takes events. -/
def Live (s : HttpTurn) : Prop := s.transportOpen = true ∧ s.response.down = false

/-- Nothing was written, and nothing that was closed is open again. -/
structure Passive (s s' : HttpTurn) : Prop where
  log : ∃ actions, s'.log = s.log ++ actions ∧ ∀ action ∈ actions, action.isSse = false
  opened : s'.streamOpened = s.streamOpened
  pending : s'.pendingEvents = s.pendingEvents
  completed : s'.domainCompleted = s.domainCompleted
  transport : s'.transportOpen = true → s.transportOpen = true
  down : s.response.down = true → s'.response.down = true

/-- Nothing happened. -/
theorem Passive.refl (s : HttpTurn) : Passive s s :=
  ⟨⟨[], by simp, fun _ h => absurd h List.not_mem_nil⟩, rfl, rfl, rfl, id, id⟩

/-- One such change after the other. -/
theorem Passive.trans {s'' : HttpTurn} (h : Passive s s') (h' : Passive s' s'') : Passive s s'' := by
  obtain ⟨actions, hlog, hsilent⟩ := h.log
  obtain ⟨actions', hlog', hsilent'⟩ := h'.log
  refine ⟨⟨actions ++ actions', by rw [hlog', hlog, List.append_assoc], fun action haction => ?_⟩,
    h'.opened.trans h.opened, h'.pending.trans h.pending, h'.completed.trans h.completed,
    fun hopen => h.transport (h'.transport hopen), fun hdown => h'.down (h.down hdown)⟩
  rcases List.mem_append.mp haction with haction | haction
  · exact hsilent action haction
  · exact hsilent' action haction

/-- Whoever can write now could write before. -/
theorem Passive.live (h : Passive s s') (hlive : s'.Live) : s.Live := by
  refine ⟨h.transport hlive.1, Bool.eq_false_iff.mpr fun hdown => ?_⟩
  exact absurd (h.down hdown) (by rw [hlive.2]; decide)

/-- Actions that are not about frames write nothing, and are allowed anywhere. -/
theorem filterMap_silent {actions : List HttpAction}
    (h : ∀ action ∈ actions, action.isSse = false) : actions.filterMap HttpAction.frame? = [] := by
  refine List.filterMap_eq_nil_iff.mpr fun action haction => ?_
  have hsse := h action haction
  cases action <;> first | rfl | cases hsse

/-- Actions that are no frames may come after a refusal. -/
theorem free_of_silent {actions : List HttpAction} (h : ∀ action ∈ actions, action.isSse = false) :
    ∀ action ∈ actions, ∀ past, NothingAfterRefusal past action := by
  intro action haction past frame refused heq
  rw [heq] at haction
  cases h _ haction

/-- A log without frames has written none. -/
theorem silent_log (h : ∀ action ∈ s.log, action.isSse = false) :
    s.framesWritten = [] ∧ Trace.Lawful NothingAfterRefusal s.log :=
  ⟨filterMap_silent h, Trace.lawful_nil.append_of_free (free_of_silent h)⟩

/-- The same frames were written. -/
theorem Passive.framesWritten (h : Passive s s') : s'.framesWritten = s.framesWritten := by
  obtain ⟨actions, hlog, hsilent⟩ := h.log
  rw [HttpTurn.framesWritten, hlog, List.filterMap_append, filterMap_silent hsilent,
    List.append_nil]
  rfl

/-- No frame was written after a refusal. -/
theorem Passive.lawful (h : Passive s s') (hlawful : Trace.Lawful NothingAfterRefusal s.log) :
    Trace.Lawful NothingAfterRefusal s'.log := by
  obtain ⟨actions, hlog, hsilent⟩ := h.log
  rw [hlog]
  exact hlawful.append_of_free (free_of_silent hsilent)

/-- No frame was refused. -/
theorem Passive.unrefused (h : Passive s s') (hunrefused : ∀ frame, .refusedSse frame ∉ s.log) :
    ∀ frame, .refusedSse frame ∉ s'.log := by
  obtain ⟨actions, hlog, hsilent⟩ := h.log
  intro frame hmem
  rw [hlog] at hmem
  rcases List.mem_append.mp hmem with hmem | hmem
  · exact hunrefused frame hmem
  · cases hsilent _ hmem

/-- A record of anything else but a frame. -/
theorem passive_record {action : HttpAction} (h : action.isSse = false) :
    Passive s (s.record action) := by
  refine ⟨⟨[action], rfl, fun action' haction => ?_⟩, rfl, rfl, rfl, id, id⟩
  rw [List.mem_singleton.mp haction]
  exact h

/-- A change of the phase. -/
theorem passive_phase (phase : HttpPhase) : Passive s { s with phase } :=
  ⟨⟨[], by simp, fun _ h => absurd h List.not_mem_nil⟩, rfl, rfl, rfl, id, id⟩

/-- The abort of the controller's signal. -/
theorem passive_abort : Passive s s.abort :=
  ⟨⟨[], by simp [abort], fun _ h => absurd h List.not_mem_nil⟩, rfl, rfl, rfl, id, id⟩

/-- The request was aborted. -/
theorem passive_onRequestAborted : Passive s s.onRequestAborted := by
  unfold onRequestAborted
  split
  · exact passive_abort
  · exact .refl s

/-- The response was closed. -/
theorem passive_onResponseClose : Passive s s.onResponseClose := by
  unfold onResponseClose
  split
  · exact passive_abort
  · exact .refl s

/-- The phase is not changed by that. -/
theorem onRequestAborted_phase (s : HttpTurn) : s.onRequestAborted.phase = s.phase := by
  unfold onRequestAborted
  split <;> rfl

/-- Nor by this. -/
theorem onResponseClose_phase (s : HttpTurn) : s.onResponseClose.phase = s.phase := by
  unfold onResponseClose
  split <;> rfl

/-- A response that does not come up again. -/
theorem passive_transport {response : ResponseState}
    (h : ¬ (s.response.down && !response.down) = true) : Passive s { s with response } := by
  refine ⟨⟨[], by simp, fun _ h => absurd h List.not_mem_nil⟩, rfl, rfl, rfl, id, fun hdown => ?_⟩
  simpa [hdown] using h

/-- The completion was rolled back. -/
theorem passive_rollbackCompletion : Passive s s.rollbackCompletion := by
  unfold rollbackCompletion
  split
  · exact .refl s
  split
  · exact .refl s
  · exact ⟨⟨[_], rfl, fun action h => by rw [List.mem_singleton.mp h]; rfl⟩, rfl, rfl, rfl, id, id⟩

/-- A response is down after `end`. -/
theorem endResponse_down (hsink : sink.AsDocumented) : (s.endResponse sink).response.down = true := by
  show ((sink.finish s.calls s.response).getD s.response).down = true
  cases hfinish : sink.finish s.calls s.response with
  | some ended => exact hsink.finish_down _ _ _ hfinish
  | none =>
    by_contra hdown
    have hsome := hsink.finish_some s.calls s.response (by simpa using hdown)
    rw [hfinish] at hsome
    cases hsome

/-- The response was ended. -/
theorem passive_endResponse (hsink : sink.AsDocumented) : Passive s (s.endResponse sink) :=
  ⟨⟨[.ended], rfl, fun action h => by rw [List.mem_singleton.mp h]; rfl⟩, rfl, rfl, rfl, id,
    fun _ => endResponse_down hsink⟩

/-- An answer in JSON is no frame. -/
theorem passive_writeJson (hsink : sink.AsDocumented) (statusCode : ℕ) :
    Passive s (s.writeJson sink statusCode) :=
  (passive_record rfl).trans (passive_endResponse hsink)

/-- The end of the handler: it writes nothing and leaves the response down. -/
theorem conclude_passive (hsink : sink.AsDocumented) :
    Passive s (s.conclude sink) ∧ (s.conclude sink).phase = .settled ∧
      (s.conclude sink).response.down = true := by
  have hroll : Passive s s.rollbackCompletion := passive_rollbackCompletion
  unfold conclude
  dsimp only
  split
  · exact ⟨(hroll.trans (passive_endResponse hsink)).trans (passive_phase _), rfl,
      endResponse_down hsink⟩
  · rename_i hdown
    exact ⟨hroll.trans (passive_phase _), rfl, by simpa using hdown⟩

/-! ## Sending -/

/-- The frames were written, or the first of them up to one that was refused. -/
structure Sent (frames : List SseFrame) (s : HttpTurn) : Prop where
  written : s.framesWritten <+: frames
  all : s.transportOpen = true → s.framesWritten = frames
  lawful : Trace.Lawful NothingAfterRefusal s.log
  unrefused : s.transportOpen = true → ∀ frame, .refusedSse frame ∉ s.log

/-- What was sent was sent. -/
theorem Sent.passive (h : Sent frames s) (hpassive : Passive s s') : Sent frames s' where
  written := by
    rw [hpassive.framesWritten]
    exact h.written
  all hopen := hpassive.framesWritten.trans (h.all (hpassive.transport hopen))
  lawful := hpassive.lawful h.lawful
  unrefused hopen := hpassive.unrefused (h.unrefused (hpassive.transport hopen))

/-- What `writeSseEvent` does. -/
theorem writeSseEvent_cases (maxSseBufferBytes : ℕ) (sink : ResponseSink) (frame : SseFrame)
    (s : HttpTurn) :
    s.writeSseEvent maxSseBufferBytes sink frame =
        (true, { s with response := s.written sink frame, calls := s.calls + 1 }.record
          (.wroteSse frame)) ∨
      s.writeSseEvent maxSseBufferBytes sink frame = (false, s.record (.refusedSse frame)) := by
  unfold writeSseEvent
  split
  · exact .inl rfl
  · exact .inr rfl

/-- A frame that was written is the last of the written ones. -/
theorem framesWritten_wrote {frame : SseFrame} (hlog : s'.log = s.log ++ [.wroteSse frame]) :
    s'.framesWritten = s.framesWritten ++ [frame] := by
  rw [framesWritten, hlog, List.filterMap_append]
  rfl

/-- A frame that was refused is none of them. -/
theorem framesWritten_refused {frame : SseFrame} (hlog : s'.log = s.log ++ [.refusedSse frame]) :
    s'.framesWritten = s.framesWritten := by
  rw [framesWritten, hlog, List.filterMap_append]
  exact List.append_nil _

/-- It may be written where none was refused. -/
theorem lawful_wrote {frame : SseFrame} (hlawful : Trace.Lawful NothingAfterRefusal s.log)
    (hunrefused : ∀ frame, .refusedSse frame ∉ s.log) :
    Trace.Lawful NothingAfterRefusal (s.log ++ [.wroteSse frame]) :=
  Trace.lawful_snoc.mpr ⟨hlawful, fun _ refused _ => hunrefused refused⟩

/-- A refusal breaks no law. -/
theorem lawful_refused {frame : SseFrame} (hlawful : Trace.Lawful NothingAfterRefusal s.log) :
    Trace.Lawful NothingAfterRefusal (s.log ++ [.refusedSse frame]) :=
  hlawful.snoc_of_free fun _ _ _ heq => nomatch heq

variable (maxSseBufferBytes sink) in
/-- One more frame is sent on. -/
theorem Sent.deliverEvent (h : Sent frames s) (hopen : s.transportOpen = true) (frame : SseFrame) :
    Sent (frames ++ [frame]) (s.deliverEvent maxSseBufferBytes sink frame) := by
  unfold HttpTurn.deliverEvent
  rcases writeSseEvent_cases maxSseBufferBytes sink frame s with heq | heq <;> rw [heq]
  · have hwritten : framesWritten ({ s with
        response := s.written sink frame, calls := s.calls + 1 }.record (.wroteSse frame)) =
        frames ++ [frame] := by
      rw [framesWritten_wrote (s := s) rfl, h.all hopen]
    refine ⟨?_, fun _ => hwritten, lawful_wrote h.lawful (h.unrefused hopen), fun _ refused => ?_⟩
    · exact hwritten ▸ List.prefix_refl _
    · rintro hmem
      rcases List.mem_append.mp hmem with hmem | hmem
      · exact h.unrefused hopen refused hmem
      · cases List.mem_singleton.mp hmem
  · -- The refusal closes the transport, so nothing is claimed about what is sent from here on.
    refine ⟨?_, nofun, lawful_refused h.lawful, nofun⟩
    show List.filterMap HttpAction.frame? (s.log ++ [.refusedSse frame]) <+: _
    rw [List.filterMap_append]
    exact (List.append_nil s.framesWritten).symm ▸ h.written.trans (List.prefix_append _ _)

variable (maxSseBufferBytes sink) in
/-- The loop over what was buffered. -/
theorem Sent.deliverPending (h : Sent frames s) (pending : List SseFrame) :
    Sent (frames ++ pending) (s.deliverPending maxSseBufferBytes sink pending) := by
  induction pending generalizing frames s with
  | nil => rwa [List.append_nil]
  | cons frame pending ih =>
    unfold HttpTurn.deliverPending
    by_cases hopen : s.transportOpen = true
    · rw [if_neg (by simp [hopen])]
      have hnext := ih (h.deliverEvent maxSseBufferBytes sink hopen frame)
      rwa [List.append_assoc, List.singleton_append] at hnext
    · rw [if_pos (by simp [hopen])]
      exact ⟨h.written.trans (List.prefix_append _ _), fun habsurd => absurd habsurd hopen,
        h.lawful, fun habsurd => absurd habsurd hopen⟩

variable (maxSseBufferBytes sink s) in
/-- What `deliverEvent` leaves as it is. -/
theorem deliverEvent_fields (frame : SseFrame) :
    (s.deliverEvent maxSseBufferBytes sink frame).phase = s.phase ∧
      (s.deliverEvent maxSseBufferBytes sink frame).streamOpened = s.streamOpened ∧
      (s.deliverEvent maxSseBufferBytes sink frame).pendingEvents = s.pendingEvents ∧
      (s.deliverEvent maxSseBufferBytes sink frame).domainCompleted = s.domainCompleted := by
  unfold HttpTurn.deliverEvent
  rcases writeSseEvent_cases maxSseBufferBytes sink frame s with heq | heq <;> rw [heq] <;>
    exact ⟨rfl, rfl, rfl, rfl⟩

/-- A response that is down stays down, and a closed transport closed. -/
theorem deliverEvent_live (hsink : sink.AsDocumented) (frame : SseFrame)
    (h : (s.deliverEvent maxSseBufferBytes sink frame).Live) : s.Live := by
  have hdown : s.response.down = true →
      (s.deliverEvent maxSseBufferBytes sink frame).response.down = true := by
    intro hdown
    unfold HttpTurn.deliverEvent
    rcases writeSseEvent_cases maxSseBufferBytes sink frame s with heq | heq <;> rw [heq]
    · exact hsink.write_down _ _ _ hdown
    · exact hdown
  refine ⟨?_, Bool.eq_false_iff.mpr fun habsurd => absurd (hdown habsurd) (by rw [h.2]; decide)⟩
  have hopen := h.1
  unfold HttpTurn.deliverEvent at hopen
  rcases writeSseEvent_cases maxSseBufferBytes sink frame s with heq | heq <;> rw [heq] at hopen
  · exact hopen
  · cases hopen

variable (maxSseBufferBytes sink) in
/-- The delivery of what is pending does not touch these fields. -/
theorem deliverPending_fields (pending : List SseFrame) (s : HttpTurn) :
    (s.deliverPending maxSseBufferBytes sink pending).streamOpened = s.streamOpened ∧
      (s.deliverPending maxSseBufferBytes sink pending).domainCompleted = s.domainCompleted := by
  induction pending generalizing s with
  | nil => exact ⟨rfl, rfl⟩
  | cons frame pending ih =>
    unfold HttpTurn.deliverPending
    split
    · exact ⟨rfl, rfl⟩
    · obtain ⟨-, hopened, -, hcompleted⟩ := deliverEvent_fields maxSseBufferBytes sink s frame
      exact ⟨(ih _).1.trans hopened, (ih _).2.trans hcompleted⟩

/-- A handler that can write after the delivery could write before it. -/
theorem deliverPending_live (hsink : sink.AsDocumented) (pending : List SseFrame)
    (h : (s.deliverPending maxSseBufferBytes sink pending).Live) : s.Live := by
  induction pending generalizing s with
  | nil => exact h
  | cons frame pending ih =>
    unfold HttpTurn.deliverPending at h
    split at h
    · exact h
    · exact deliverEvent_live hsink frame (ih h)

/-! ## The stages -/

/-- Nothing was written yet. -/
structure Buffering (inputs : List HttpInput) (s : HttpTurn) : Prop where
  opened : s.streamOpened = false
  phase : s.phase ≠ .streaming ∧ s.phase ≠ .finishing
  silent : ∀ action ∈ s.log, action.isSse = false
  pending : s.pendingEvents <+: given inputs
  live : s.Live → s.pendingEvents = given inputs
  completed : s.domainCompleted = true → .event .completed ∈ inputs

/-- What comes is sent on. -/
structure Streaming (inputs : List HttpInput) (s : HttpTurn) : Prop where
  opened : s.streamOpened = true
  phase : s.phase = .streaming
  sent : ∃ frames, Sent frames s ∧ frames <+: given inputs ∧ (s.Live → frames = given inputs)
  completed : s.domainCompleted = true → .event .completed ∈ inputs

/-- The frame that ends a turn. -/
def EndFrame (inputs : List HttpInput) (frame : SseFrame) : Prop :=
  (∃ error, frame = .ofError error) ∨
    ∃ result before after, frame = .completed result ∧
      inputs = before ++ .resolved result :: after ∧ .event .completed ∈ before

/-- What was written is a prefix of what was given, and then at most the end. -/
structure Written (inputs : List HttpInput) (s : HttpTurn) : Prop where
  frames : ∃ shown last, s.framesWritten = shown ++ Option.toList last ∧ shown <+: given inputs ∧
    ∀ frame, last = some frame → EndFrame inputs frame
  lawful : Trace.Lawful NothingAfterRefusal s.log

/-- The response is down. -/
structure Over (inputs : List HttpInput) (s : HttpTurn) : Prop where
  phase : s.phase = .finishing ∨ s.phase = .settled
  down : s.response.down = true
  written : Written inputs s

/-- Where the handler is. -/
def Stage (inputs : List HttpInput) (s : HttpTurn) : Prop :=
  Buffering inputs s ∨ Streaming inputs s ∨ Over inputs s

/-- The end of a turn stays its end. -/
theorem EndFrame.mono {frame : SseFrame} (h : EndFrame inputs frame) (more : List HttpInput) :
    EndFrame (inputs ++ more) frame := by
  rcases h with herror | ⟨result, before, after, hframe, rfl, hcompleted⟩
  · exact .inl herror
  · refine .inr ⟨result, before, after ++ more, hframe, ?_, hcompleted⟩
    rw [List.append_assoc, List.cons_append]

/-- What was given before is a prefix of what is given later. -/
theorem given_extends (inputs : List HttpInput) (input : HttpInput) :
    given inputs <+: given (inputs ++ [input]) := by
  rw [given_snoc]
  exact List.prefix_append _ _

/-- What was written is a prefix of that too. -/
theorem Written.mono (h : Written inputs s) (input : HttpInput) : Written (inputs ++ [input]) s := by
  obtain ⟨⟨shown, last, hframes, hshown, hlast⟩, hlawful⟩ := h
  exact ⟨⟨shown, last, hframes, hshown.trans (given_extends _ _),
    fun frame heq => (hlast frame heq).mono _⟩, hlawful⟩

/-- What was written is in the log. -/
theorem Written.of_log (h : Written inputs s) (hlog : s'.log = s.log) : Written inputs s' := by
  obtain ⟨shown, last, hframes, hrest⟩ := h.frames
  have hsame : s'.framesWritten = s.framesWritten := by rw [framesWritten, framesWritten, hlog]
  exact ⟨⟨shown, last, hsame.trans hframes, hrest⟩, hlog ▸ h.lawful⟩

/-- What was written does not change where nothing is written. -/
theorem Written.passive (h : Written inputs s) (hpassive : Passive s s') : Written inputs s' := by
  obtain ⟨shown, last, hframes, hrest⟩ := h.frames
  exact ⟨⟨shown, last, hpassive.framesWritten.trans hframes, hrest⟩, hpassive.lawful h.lawful⟩

/-- The handler still waits for its stream to be opened. -/
theorem Buffering.passive (h : Buffering inputs s) (hpassive : Passive s s')
    (hphase : s'.phase ≠ .streaming ∧ s'.phase ≠ .finishing) : Buffering inputs s' where
  opened := hpassive.opened.trans h.opened
  phase := hphase
  silent := by
    obtain ⟨actions, hlog, hsilent⟩ := hpassive.log
    intro action haction
    rw [hlog] at haction
    rcases List.mem_append.mp haction with haction | haction
    · exact h.silent action haction
    · exact hsilent action haction
  pending := hpassive.pending ▸ h.pending
  live hlive := hpassive.pending.trans (h.live (hpassive.live hlive))
  completed hcompleted := h.completed (hpassive.completed ▸ hcompleted)

/-- It still sends on what comes. -/
theorem Streaming.passive (h : Streaming inputs s) (hpassive : Passive s s')
    (hphase : s'.phase = s.phase) : Streaming inputs s' where
  opened := hpassive.opened.trans h.opened
  phase := hphase.trans h.phase
  sent := by
    obtain ⟨frames, hsent, hframes, hlive⟩ := h.sent
    exact ⟨frames, hsent.passive hpassive, hframes, fun hlive' => hlive (hpassive.live hlive')⟩
  completed hcompleted := h.completed (hpassive.completed ▸ hcompleted)

/-- It is still over. -/
theorem Over.passive (h : Over inputs s) (hpassive : Passive s s')
    (hphase : s'.phase = .finishing ∨ s'.phase = .settled) : Over inputs s' :=
  ⟨hphase, hpassive.down h.down, h.written.passive hpassive⟩

/-- An input that gives the listener no text. -/
theorem Buffering.mono (h : Buffering inputs s) {input : HttpInput} (hinput : input.textEvent? = none) :
    Buffering (inputs ++ [input]) s := by
  have hgiven : given (inputs ++ [input]) = given inputs := given_snoc_none hinput
  exact ⟨h.opened, h.phase, h.silent, hgiven ▸ h.pending, hgiven ▸ h.live,
    fun hcompleted => List.mem_append_left _ (h.completed hcompleted)⟩

/-- An input without a text event is not sent on. -/
theorem Streaming.mono (h : Streaming inputs s) {input : HttpInput} (hinput : input.textEvent? = none) :
    Streaming (inputs ++ [input]) s := by
  have hgiven : given (inputs ++ [input]) = given inputs := given_snoc_none hinput
  exact ⟨h.opened, h.phase, hgiven ▸ h.sent,
    fun hcompleted => List.mem_append_left _ (h.completed hcompleted)⟩

/-- A response that is down stays down. -/
theorem Over.mono (h : Over inputs s) (input : HttpInput) : Over (inputs ++ [input]) s :=
  ⟨h.phase, h.down, h.written.mono input⟩

/-! ## The steps -/

/-- The listener drops what it is given when the handler cannot write any more. -/
theorem listener_of_not_live (event : ResponseStreamEvent) (h : ¬ s.Live) :
    s.listener maxSseBufferBytes sink event = s := by
  have hclosed : (!s.transportOpen || s.response.down) = true := by
    by_contra habsurd
    refine h ?_
    simpa [Live] using habsurd
  unfold HttpTurn.listener
  rw [if_pos hclosed]

/-- The listener keeps in mind that the turn is completed. -/
theorem listener_completed (h : s.Live) :
    s.listener maxSseBufferBytes sink .completed = { s with domainCompleted := true } := by
  rw [listener, if_neg (by simp [h.1, h.2])]

/-- It sends a text event on. -/
theorem listener_text {input : HttpInput} {event : ResponseStreamEvent} (hinput : input = .event event)
    {text : TextEvent} (htext : input.textEvent? = some text) (h : s.Live) :
    s.listener maxSseBufferBytes sink event = s.sendOn maxSseBufferBytes sink text.frame := by
  subst hinput
  unfold HttpTurn.listener
  rw [if_neg (by simp [h.1, h.2])]
  cases event with
  | completed => cases htext
  | textDelta units =>
    cases htext
    rfl
  | finalText units =>
    cases htext
    rfl

/-- What the listener does to an event that is not a text. -/
theorem event_of_textEvent?_none {event : ResponseStreamEvent}
    (h : (HttpInput.event event).textEvent? = none) : event = .completed := by
  cases event with
  | completed => rfl
  | textDelta units => cases h
  | finalText units => cases h

/-- Before the stream is open an event is buffered, unless the limit is exceeded. -/
theorem Buffering.listener (h : Buffering inputs s) (event : ResponseStreamEvent) :
    Buffering (inputs ++ [.event event]) (s.listener maxSseBufferBytes sink event) := by
  have hnone : (HttpInput.event event).textEvent? = none → event = .completed :=
    event_of_textEvent?_none
  by_cases hlive : s.Live
  · cases htext : (HttpInput.event event).textEvent? with
    | none =>
      obtain rfl := hnone htext
      rw [listener_completed hlive]
      refine ⟨h.opened, h.phase, h.silent, h.pending.trans (given_extends _ _), fun _ => ?_,
        fun _ => List.mem_append_right _ List.mem_cons_self⟩
      rw [given_snoc_none htext]
      exact h.live hlive
    | some text =>
      have hgiven : given (inputs ++ [.event event]) = s.pendingEvents ++ [text.frame] := by
        rw [given_snoc, htext, h.live hlive]
        rfl
      rw [listener_text rfl htext hlive, sendOn, if_neg (by rw [h.opened]; decide)]
      split
      · -- The limit: the event is dropped, and the transport is closed for all that follow.
        exact ⟨h.opened, h.phase, h.silent, h.pending.trans (given_extends _ _),
          fun habsurd => absurd habsurd.1 (by simp [abort]),
          fun hcompleted => List.mem_append_left _ (h.completed hcompleted)⟩
      · refine ⟨h.opened, h.phase, h.silent, ?_, fun _ => hgiven.symm,
          fun hcompleted => List.mem_append_left _ (h.completed hcompleted)⟩
        exact hgiven.symm ▸ List.prefix_refl _
  · rw [listener_of_not_live event hlive]
    exact ⟨h.opened, h.phase, h.silent, h.pending.trans (given_extends _ _),
      fun habsurd => absurd habsurd hlive,
      fun hcompleted => List.mem_append_left _ (h.completed hcompleted)⟩

/-- Once the stream is open an event is sent on. -/
theorem Streaming.listener (h : Streaming inputs s) (event : ResponseStreamEvent) :
    Streaming (inputs ++ [.event event]) (s.listener maxSseBufferBytes sink event) := by
  obtain ⟨frames, hsent, hframes, hall⟩ := h.sent
  have hnone : (HttpInput.event event).textEvent? = none → event = .completed :=
    -- `COMPLETED` has no frame of its own, so nothing is sent; a text event is sent at once
    event_of_textEvent?_none
  by_cases hlive : s.Live
  · cases htext : (HttpInput.event event).textEvent? with
    | none =>
      obtain rfl := hnone htext
      rw [listener_completed hlive]
      refine ⟨h.opened, h.phase, ⟨frames, ⟨hsent.written, hsent.all, hsent.lawful, hsent.unrefused⟩,
        hframes.trans (given_extends _ _), fun _ => ?_⟩,
        fun _ => List.mem_append_right _ List.mem_cons_self⟩
      rw [given_snoc_none htext]
      exact hall hlive
    | some text =>
      have hgiven : given (inputs ++ [.event event]) = frames ++ [text.frame] := by
        rw [given_snoc, htext, hall hlive]
        rfl
      obtain ⟨hphase, hopened, -, hcompleted⟩ :=
        deliverEvent_fields maxSseBufferBytes sink s text.frame
      rw [listener_text rfl htext hlive, sendOn, if_pos h.opened]
      refine ⟨hopened.trans h.opened, hphase.trans h.phase,
        ⟨frames ++ [text.frame], hsent.deliverEvent maxSseBufferBytes sink hlive.1 text.frame, ?_,
          fun _ => hgiven.symm⟩, fun hdone => List.mem_append_left _ (h.completed ?_)⟩
      · exact hgiven.symm ▸ List.prefix_refl _
      · rwa [hcompleted] at hdone
  · -- the listener of a handler that cannot write does nothing
    rw [listener_of_not_live event hlive]
    exact ⟨h.opened, h.phase, ⟨frames, hsent, hframes.trans (given_extends _ _),
      fun habsurd => absurd habsurd hlive⟩,
      fun hcompleted => List.mem_append_left _ (h.completed hcompleted)⟩

/-- The stream opens, and what was buffered is sent on. -/
theorem Buffering.openStream (hsink : sink.AsDocumented) (h : Buffering inputs s) :
    Streaming (inputs ++ [.returned]) (s.openStream maxSseBufferBytes sink) := by
  have hsilent : ∀ action ∈ (record .openedSse { s with streamOpened := true }).log,
      action.isSse = false := by
    intro action haction
    rcases List.mem_append.mp haction with haction | haction
    · exact h.silent action haction
    · rw [List.mem_singleton.mp haction]
      rfl
  obtain ⟨hnothing, hlawful⟩ := silent_log hsilent
  have hsent : Sent [] (record .openedSse { s with streamOpened := true }) :=
    ⟨hnothing ▸ List.prefix_refl _, fun _ => hnothing, hlawful, fun _ frame hmem =>
      nomatch hsilent _ hmem⟩
  -- what waited goes out before anything that comes later
  obtain ⟨hopened, hcompleted⟩ := deliverPending_fields maxSseBufferBytes sink s.pendingEvents
    (record .openedSse { s with streamOpened := true })
  have hpending := hsent.deliverPending maxSseBufferBytes sink s.pendingEvents
  rw [List.nil_append] at hpending
  refine ⟨hopened, rfl, ⟨s.pendingEvents, ?_, ?_, fun hlive => ?_⟩, fun hdone => ?_⟩
  · exact ⟨hpending.written, hpending.all, hpending.lawful, hpending.unrefused⟩
  · exact h.pending.trans (given_extends _ _)
  · rw [given_snoc_none rfl]
    obtain ⟨htransport, hdown⟩ := deliverPending_live hsink s.pendingEvents
      (show (deliverPending maxSseBufferBytes sink _ s.pendingEvents).Live from hlive)
    exact h.live ⟨htransport, hdown⟩
  · exact List.mem_append_left _ (h.completed (hcompleted ▸ hdone))

/-! ## The ends -/

/-- What was sent on was written. -/
theorem Streaming.written (h : Streaming inputs s) : Written inputs s := by
  obtain ⟨frames, hsent, hframes, -⟩ := h.sent
  exact ⟨⟨s.framesWritten, none, (List.append_nil _).symm, hsent.written.trans hframes, nofun⟩,
    hsent.lawful⟩

variable (maxSseBufferBytes sink) in
/-- The frame that ends the turn is written, or refused, where the handler can still write. -/
theorem Streaming.writeEnd (h : Streaming inputs s) (hlive : s.Live) {frame : SseFrame}
    (hend : EndFrame inputs frame) :
    Written inputs (s.writeSseEvent maxSseBufferBytes sink frame).2 := by
  obtain ⟨frames, hsent, hframes, -⟩ := h.sent
  have hprefix : s.framesWritten <+: given inputs := hsent.written.trans hframes
  rcases writeSseEvent_cases maxSseBufferBytes sink frame s with heq | heq <;> rw [heq]
  · refine ⟨⟨s.framesWritten, some frame, framesWritten_wrote rfl, hprefix, ?_⟩,
      lawful_wrote hsent.lawful (hsent.unrefused hlive.1)⟩
    rintro _ ⟨⟩
    exact hend
  · refine ⟨⟨s.framesWritten, none, ?_, hprefix, nofun⟩, lawful_refused hsent.lawful⟩
    exact (framesWritten_refused rfl).trans (List.append_nil _).symm

/-- A record that is no frame changes nothing of that. -/
theorem Written.record (h : Written inputs s) {action : HttpAction} (haction : action.isSse = false) :
    Written inputs (s.record action) :=
  h.passive (passive_record haction)

/-- The response is ended. -/
theorem Written.conclude (hsink : sink.AsDocumented) (h : Written inputs s) :
    Over inputs (s.conclude sink) := by
  obtain ⟨hpassive, hphase, hdown⟩ := conclude_passive (s := s) hsink
  exact ⟨.inr hphase, hdown, h.passive hpassive⟩

/-- The completion is confirmed or rolled back, and the response is ended. -/
theorem Written.settleCompletion (hsink : sink.AsDocumented) (h : Written inputs s)
    (result : TurnResult) : Over inputs (s.settleCompletion sink result) := by
  unfold HttpTurn.settleCompletion
  dsimp only
  split
  · have hsettled : Written inputs { s with completionSettled := true } := h.of_log rfl
    exact (hsettled.record rfl).conclude hsink
  · exact (h.passive passive_rollbackCompletion).conclude hsink

/-- The frame that ends the turn was written, or not. -/
theorem Written.finishedSse (hsink : sink.AsDocumented) (h : Written inputs s) (result : TurnResult)
    (delivered : Bool) : Over inputs (s.finishedSse sink result delivered) := by
  have hdelivered : Written inputs { s with transportOpen := delivered } := h.of_log rfl
  exact (hdelivered.record rfl).settleCompletion hsink result

/-- A turn that has resolved ends with its frame, where the response still takes it. -/
theorem Written.finishSseResponse (hsink : sink.AsDocumented) (h : Written inputs s)
    (result : TurnResult) : Over inputs (s.finishSseResponse sink result) := by
  unfold HttpTurn.finishSseResponse
  split
  · exact h.finishedSse hsink result false
  split
  · exact h.finishedSse hsink result false
  · rename_i response hfinish
    have hended : Written inputs { s with
      response, calls := s.calls + 1, phase := .finishing } := h.of_log rfl
    exact ⟨.inl rfl, hsink.finish_down _ _ _ hfinish, hended.record rfl⟩

/-- A rollback does not change the phase. -/
theorem rollbackCompletion_phase (s : HttpTurn) : s.rollbackCompletion.phase = s.phase := by
  unfold rollbackCompletion
  split
  · rfl
  split <;> rfl

/-- A turn that has failed ends with the frame of its error. -/
theorem Streaming.failTurn (hsink : sink.AsDocumented) (h : Streaming inputs s) (error : ApiError) :
    Over inputs (s.failTurn maxSseBufferBytes sink error) := by
  have hroll : Streaming inputs s.rollbackCompletion :=
    h.passive passive_rollbackCompletion (rollbackCompletion_phase s)
  unfold HttpTurn.failTurn
  dsimp only
  split
  · rename_i hopen
    have hlive : s.rollbackCompletion.Live := by simpa [Live] using hopen
    exact (hroll.writeEnd maxSseBufferBytes sink hlive (.inl ⟨error, rfl⟩)).conclude hsink
  · exact hroll.written.conclude hsink

variable (maxSseBufferBytes sink) in
/-- The completed frame is the last one that is written. -/
theorem Streaming.writeCompleted (h : Streaming inputs s) {result : TurnResult}
    (hend : EndFrame inputs (.completed result)) :
    Written inputs (s.writeCompleted maxSseBufferBytes sink result) := by
  unfold HttpTurn.writeCompleted
  split
  · rename_i hopen
    have hlive : s.Live := by simpa [Live] using hopen
    have hwritten := h.writeEnd maxSseBufferBytes sink hlive hend
    generalize s.writeSseEvent maxSseBufferBytes sink (.completed result) = outcome at hwritten
    exact hwritten.of_log rfl
  · exact h.written

/-- A turn that resolves while it streams is over, with what it was given on the wire. -/
theorem Streaming.turnResolved (hsink : sink.AsDocumented) (h : Streaming inputs s)
    (result : TurnResult) :
    Over (inputs ++ [.resolved result]) (s.turnResolved maxSseBufferBytes sink result) := by
  have hresolved : Streaming (inputs ++ [.resolved result]) { s with result := some result } :=
    (h.mono rfl).passive
      ⟨⟨[], by simp, fun _ haction => absurd haction List.not_mem_nil⟩, rfl, rfl, rfl, id, id⟩ rfl
  unfold HttpTurn.turnResolved
  dsimp only
  split
  · exact hresolved.failTurn hsink _
  · rename_i hcompleted
    have hend : EndFrame (inputs ++ [.resolved result]) (.completed result) :=
      .inr ⟨result, inputs, [], rfl, rfl, h.completed (by simpa using hcompleted)⟩
    have hwritten := hresolved.writeCompleted maxSseBufferBytes sink hend
    split
    · exact hwritten.finishSseResponse hsink result
    · exact hwritten.settleCompletion hsink result

/-! ## Runs -/

/-- The response's events matter only to a handler that waits for the end of the response. -/
theorem onResponseEvent_of_not_finishing (delivered : Bool) (h : s.phase ≠ .finishing) :
    s.onResponseEvent sink delivered = s := by
  unfold onResponseEvent
  split
  · rename_i hphase _
    exact absurd hphase h
  · rfl

/-- A response that is down may say so late. -/
theorem Over.onResponseEvent (hsink : sink.AsDocumented) (h : Over inputs s) (delivered : Bool) :
    Over inputs (s.onResponseEvent sink delivered) := by
  unfold HttpTurn.onResponseEvent
  split
  · exact h.written.finishedSse hsink _ delivered
  · exact h

/-- What happens before the stream is open. -/
theorem Buffering.step (hsink : sink.AsDocumented) (h : Buffering inputs s) {input : HttpInput}
    (hstep : s.stepLate maxSseBufferBytes sink input = some s') : Stage (inputs ++ [input]) s' := by
  have hquiet : ∀ {t : HttpTurn}, input.textEvent? = none → Passive s t →
      t.phase ≠ .streaming ∧ t.phase ≠ .finishing → Stage (inputs ++ [input]) t :=
    fun hinput hpassive hphase => .inl ((h.mono hinput).passive hpassive hphase)
  have hjson : ∀ statusCode, input.textEvent? = none →
      Stage (inputs ++ [input]) { s.writeJson sink statusCode with phase := .settled } := by
    intro statusCode hinput
    have hwrite : Passive s (s.writeJson sink statusCode) := passive_writeJson hsink statusCode
    generalize s.writeJson sink statusCode = t at hwrite
    exact hquiet hinput (hwrite.trans (passive_phase .settled)) ⟨nofun, nofun⟩
  -- before the stream is open only the listener's events wait; every answer in JSON ends the
  -- handler
  cases input with
  | headers contentType contentEncoding =>
    simp only [stepLate, HttpTurn.step, Option.ite_none_right_eq_some, Option.some.injEq] at hstep
    obtain ⟨-, rfl⟩ := hstep
    unfold checkHeaders
    split
    · exact hjson 415 rfl
    split
    · exact hjson 415 rfl
    · exact hquiet rfl (passive_phase _) (by simp)
  | bodyRead body =>
    simp only [stepLate, HttpTurn.step, Option.ite_none_right_eq_some, Option.some.injEq] at hstep
    obtain ⟨-, rfl⟩ := hstep
    unfold HttpTurn.bodyRead
    split
    · split
      · exact hjson _ rfl
      · exact hquiet rfl (passive_phase _) (by simp)
    split
    · exact hquiet rfl (passive_phase _) (by simp)
    · exact hquiet rfl ((passive_record rfl).trans (passive_phase _)) (by simp)
  | event event =>
    simp only [stepLate, Option.ite_none_right_eq_some, Option.some.injEq] at hstep
    obtain ⟨-, rfl⟩ := hstep
    exact .inl (h.listener event)
  | returned =>
    simp only [stepLate, HttpTurn.step, Option.ite_none_right_eq_some, Option.some.injEq] at hstep
    obtain ⟨-, rfl⟩ := hstep
    exact .inr (.inl (h.openStream hsink))
  | threw error =>
    simp only [stepLate, HttpTurn.step, Option.ite_none_right_eq_some, Option.some.injEq] at hstep
    obtain ⟨-, rfl⟩ := hstep
    unfold executionThrew
    split
    · exact hjson _ rfl
    · exact hquiet rfl (passive_phase _) (by simp)
  | resolved result => simp [stepLate, HttpTurn.step, h.phase.1] at hstep
  | rejected error => simp [stepLate, HttpTurn.step, h.phase.1] at hstep
  | requestAborted =>
    cases hstep
    exact hquiet rfl passive_onRequestAborted (by rw [onRequestAborted_phase]; exact h.phase)
  | responseFinish | responseError =>
    cases hstep
    rw [onResponseEvent_of_not_finishing _ h.phase.2]
    exact .inl (h.mono rfl)
  | responseClose =>
    cases hstep
    rw [onResponseEvent_of_not_finishing _ (by rw [onResponseClose_phase]; exact h.phase.2)]
    exact hquiet rfl passive_onResponseClose (by rw [onResponseClose_phase]; exact h.phase)
  | transport response =>
    simp only [stepLate, Option.ite_none_left_eq_some, Option.some.injEq] at hstep
    obtain ⟨hdown, rfl⟩ := hstep
    exact hquiet rfl (passive_transport hdown) h.phase

/-- What happens while the stream is open. -/
theorem Streaming.step (hsink : sink.AsDocumented) (h : Streaming inputs s) {input : HttpInput}
    (hstep : s.stepLate maxSseBufferBytes sink input = some s') : Stage (inputs ++ [input]) s' := by
  have hquiet : ∀ {t : HttpTurn}, input.textEvent? = none → Passive s t → t.phase = s.phase →
      Stage (inputs ++ [input]) t :=
    fun hinput hpassive hphase => .inr (.inl ((h.mono hinput).passive hpassive hphase))
  have hfinishing : s.phase ≠ .finishing := by simp [h.phase]
  -- the listener's events go out at once, and the two answers of the turn end the stream
  cases input with
  | headers contentType contentEncoding => simp [stepLate, HttpTurn.step, h.phase] at hstep
  | bodyRead body => simp [stepLate, HttpTurn.step, h.phase] at hstep
  | event event =>
    simp only [stepLate, Option.ite_none_right_eq_some, Option.some.injEq] at hstep
    obtain ⟨-, rfl⟩ := hstep
    exact .inr (.inl (h.listener event))
  | returned => simp [stepLate, HttpTurn.step, h.phase] at hstep
  | threw error => simp [stepLate, HttpTurn.step, h.phase] at hstep
  | resolved result =>
    simp only [stepLate, HttpTurn.step, Option.ite_none_right_eq_some, Option.some.injEq] at hstep
    obtain ⟨-, rfl⟩ := hstep
    exact .inr (.inr (h.turnResolved hsink result))
  | rejected error =>
    simp only [stepLate, HttpTurn.step, Option.ite_none_right_eq_some, Option.some.injEq] at hstep
    obtain ⟨-, rfl⟩ := hstep
    exact .inr (.inr ((h.failTurn hsink error).mono _))
  | requestAborted =>
    cases hstep
    exact hquiet rfl passive_onRequestAborted (onRequestAborted_phase s)
  | responseFinish | responseError =>
    cases hstep
    rw [onResponseEvent_of_not_finishing _ hfinishing]
    exact .inr (.inl (h.mono rfl))
  | responseClose =>
    cases hstep
    rw [onResponseEvent_of_not_finishing _ (by rwa [onResponseClose_phase])]
    exact hquiet rfl passive_onResponseClose (onResponseClose_phase s)
  | transport response =>
    simp only [stepLate, Option.ite_none_left_eq_some, Option.some.injEq] at hstep
    obtain ⟨hdown, rfl⟩ := hstep
    exact hquiet rfl (passive_transport hdown) rfl

/-- Nothing is written once the response is down: the listener drops what it is given late. -/
theorem Over.step (hsink : sink.AsDocumented) (h : Over inputs s) {input : HttpInput}
    (hstep : s.stepLate maxSseBufferBytes sink input = some s') : Over (inputs ++ [input]) s' := by
  have hquiet : ∀ {t : HttpTurn}, Passive s t → t.phase = s.phase → Over (inputs ++ [input]) t :=
    fun hpassive hphase => (h.passive hpassive (hphase ▸ h.phase)).mono input
  have hnever : ∀ phase : HttpPhase, phase ≠ .finishing → phase ≠ .settled → s.phase ≠ phase := by
    rintro phase hfinishing hsettled rfl
    exact h.phase.elim hfinishing hsettled
  -- nothing is written any more, so it is enough that nothing goes up again
  cases input with
  | headers contentType contentEncoding =>
    simp [stepLate, HttpTurn.step, hnever .checking (by simp) (by simp)] at hstep
  | bodyRead body => simp [stepLate, HttpTurn.step, hnever .reading (by simp) (by simp)] at hstep
  | event event =>
    simp only [stepLate, Option.ite_none_right_eq_some, Option.some.injEq] at hstep
    obtain ⟨-, rfl⟩ := hstep
    rw [listener_of_not_live event fun hlive => by
      have hup := hlive.2
      simp [h.down] at hup]
    exact hquiet (.refl s) rfl
  | returned => simp [stepLate, HttpTurn.step, hnever .executing (by simp) (by simp)] at hstep
  | threw error => simp [stepLate, HttpTurn.step, hnever .executing (by simp) (by simp)] at hstep
  | resolved result =>
    simp [stepLate, HttpTurn.step, hnever .streaming (by simp) (by simp)] at hstep
  | rejected error =>
    simp [stepLate, HttpTurn.step, hnever .streaming (by simp) (by simp)] at hstep
  | requestAborted =>
    cases hstep
    exact hquiet passive_onRequestAborted (onRequestAborted_phase s)
  | responseFinish =>
    cases hstep
    exact (h.onResponseEvent hsink true).mono _
  | responseError =>
    cases hstep
    exact (h.onResponseEvent hsink false).mono _
  | responseClose =>
    cases hstep
    have hclosed : Over inputs s.onResponseClose :=
      h.passive passive_onResponseClose (by rw [onResponseClose_phase]; exact h.phase)
    exact (hclosed.onResponseEvent hsink false).mono _
  | transport response =>
    simp only [stepLate, Option.ite_none_left_eq_some, Option.some.injEq] at hstep
    obtain ⟨hdown, rfl⟩ := hstep
    exact hquiet (passive_transport hdown) rfl

/-- Wherever the handler is, one input leads to a place of its own. -/
theorem Stage.step (hsink : sink.AsDocumented) (h : Stage inputs s) {input : HttpInput}
    (hstep : s.stepLate maxSseBufferBytes sink input = some s') : Stage (inputs ++ [input]) s' := by
  rcases h with hbuffering | hstreaming | hover
  · exact hbuffering.step hsink hstep
  · exact hstreaming.step hsink hstep
  · exact .inr (.inr (hover.step hsink hstep))

/-- The stage after a run. -/
theorem stage_of_run (hsink : sink.AsDocumented)
    (hrun : Machine.exec (stepLate maxSseBufferBytes sink) {} inputs = some s) :
    Stage inputs s := by
  refine Machine.exec_history ?_ (fun _ _ _ _ _ hstage hstep => hstage.step hsink hstep) hrun
  exact .inl ⟨rfl, ⟨nofun, nofun⟩, (fun _ h => nomatch h), List.prefix_refl _, fun _ => rfl, nofun⟩

/-- Whatever the stage, what was written is a prefix of what was given and at most the end. -/
theorem Stage.written (h : Stage inputs s) : Written inputs s := by
  rcases h with hbuffering | hstreaming | hover
  · obtain ⟨hnothing, hlawful⟩ := silent_log hbuffering.silent
    exact ⟨⟨[], none, hnothing, List.nil_prefix, nofun⟩, hlawful⟩
  · exact hstreaming.written
  · exact hover.written

/-! ## The client -/

/-- The first frames of a prefix and its end are such a prefix again. -/
theorem Written.take (h : Written inputs s) (taken : ℕ) :
    ∃ shown last, s.framesWritten.take taken = shown ++ Option.toList last ∧ shown <+: given inputs ∧
      ∀ frame, last = some frame → EndFrame inputs frame := by
  obtain ⟨shown, last, hframes, hshown, hlast⟩ := h.frames
  rw [hframes]
  by_cases htaken : taken ≤ shown.length
  · refine ⟨shown.take taken, none, ?_, (List.take_prefix _ _).trans hshown, nofun⟩
    rw [List.take_append_of_le_length htaken]
    exact (List.append_nil _).symm
  · refine ⟨shown, last, List.take_of_length_le ?_, hshown, hlast⟩
    cases last <;> simp <;> omega

/-- The client reads the end of a turn as such. -/
theorem EndFrame.clientEvent {frame : SseFrame} (h : EndFrame inputs frame) :
    frame.WellFormed ∧ EndsTurn inputs frame.clientEvent := by
  rcases h with ⟨error, rfl⟩ | ⟨result, before, after, rfl, hinputs, hcompleted⟩
  · exact ⟨SseFrame.wellFormed_ofError error, .inl ⟨error, SseFrame.clientEvent_ofError error⟩⟩
  · exact ⟨SseFrame.wellFormed_completed result,
      .inr ⟨result, before, after, SseFrame.clientEvent_completed result, hinputs, hcompleted⟩⟩

/-- A prefix of the frames given and an end are read as a prefix of the events and that end. -/
theorem faithful_of_frames {last : Option SseFrame} (hframes : frames <+: given inputs)
    (hlast : ∀ frame, last = some frame → EndFrame inputs frame) :
    FaithfulPrefix inputs (ClientEvent.read ((frames ++ last.toList).flatMap SseFrame.text)) := by
  obtain ⟨shown, hshown, rfl⟩ : ∃ shown, shown <+: textEvents inputs ∧
      frames = shown.map TextEvent.frame := by
    rw [List.prefix_iff_eq_take] at hframes
    exact ⟨(textEvents inputs).take frames.length, List.take_prefix _ _, by
      rw [List.map_take]
      exact hframes⟩
  -- the frames are read back one by one, as each of them is well formed
  have hwellFormed : ∀ frame ∈ shown.map TextEvent.frame ++ last.toList, frame.WellFormed := by
    intro frame hmem
    rcases List.mem_append.mp hmem with hmem | hmem
    · obtain ⟨event, -, rfl⟩ := List.mem_map.mp hmem
      exact SseFrame.wellFormed_textEvent event
    · exact (hlast frame (Option.mem_toList.mp hmem)).clientEvent.1
  refine ⟨shown, last.map SseFrame.clientEvent, ?_, hshown, fun event heq => ?_⟩
  · rw [SseFrame.read_frames hwellFormed, List.map_append, List.map_map]
    have htexts : SseFrame.clientEvent ∘ TextEvent.frame = ClientEvent.text :=
      funext SseFrame.clientEvent_textEvent
    rw [htexts]
    cases last <;> rfl
  · obtain ⟨frame, hframe, rfl⟩ := Option.map_eq_some_iff.mp heq
    exact (hlast frame hframe).clientEvent.2

/-- Whatever the turn and the response do and however much the response takes, the client reads a
prefix of the text events the listener was given, with their texts, and then at most the end of the
turn. Nothing is written after a frame was refused. -/
theorem client_reads_faithful_prefix (maxSseBufferBytes : ℕ) (sink : ResponseSink)
    (hsink : sink.AsDocumented) (inputs : List HttpInput) (final : HttpTurn)
    (hrun : Machine.exec (stepLate maxSseBufferBytes sink) {} inputs = some final) (taken : ℕ) :
    FaithfulPrefix inputs (ClientEvent.read (final.wire taken)) ∧
      Trace.Lawful NothingAfterRefusal final.log := by
  have hwritten : Written inputs final := (stage_of_run hsink hrun).written
  obtain ⟨shown, last, hframes, hshown, hlast⟩ := hwritten.take taken
  rw [wire, hframes]
  exact ⟨faithful_of_frames hshown hlast, hwritten.lawful⟩

/-- A turn whose text tries to look like another event, with an event that comes too late. -/
def forgedTurn : List HttpInput :=
  [.headers (some (Text.of "application/json")) none,
    .bodyRead (.ok { target := .fresh, prompt := Text.of "hi" }),
    .event (.textDelta (Text.of "a\n\nevent: ERROR\ndata: \x7b\x7d\n\n")), .returned,
    .event (.finalText (Text.of "a")), .event .completed,
    .resolved { threadHandle := "thread_1", created := true }, .event (.textDelta (Text.of "b")),
    .responseFinish]

/-- A response that works is as documented. -/
theorem workingSink_asDocumented : workingSink.AsDocumented where
  write_down _ _ _ h := h
  finish_some _ _ _ := rfl
  finish_down _ response ended h := by
    cases h
    simp [ResponseState.down]

/-- The client of `forgedTurn` reads the two texts and the end. -/
theorem client_reads_forgedTurn :
    ∃ final, Machine.exec (stepLate 1024 workingSink) {} forgedTurn = some final ∧
      ClientEvent.read (final.wire 3) =
        [.text (.textDelta (Text.of "a\n\nevent: ERROR\ndata: \x7b\x7d\n\n")),
          .text (.finalText (Text.of "a")),
          .completed (SseFrame.completed { threadHandle := "thread_1", created := true }).data] ∧
      FaithfulPrefix forgedTurn (ClientEvent.read (final.wire 3)) ∧
      Trace.Lawful NothingAfterRefusal final.log := by
  have hend : (Machine.exec (stepLate 1024 workingSink) {} forgedTurn).map
      (fun s => ClientEvent.read (s.wire 3)) =
      some [.text (.textDelta (Text.of "a\n\nevent: ERROR\ndata: \x7b\x7d\n\n")),
          .text (.finalText (Text.of "a")),
          .completed (SseFrame.completed { threadHandle := "thread_1", created := true }).data] := by
    decide +kernel
  obtain ⟨final, hrun, hread⟩ := Option.map_eq_some_iff.mp hend
  exact ⟨final, hrun, hread,
    client_reads_faithful_prefix 1024 workingSink workingSink_asDocumented forgedTurn final hrun 3⟩

end HttpTurn

end Threadwire
