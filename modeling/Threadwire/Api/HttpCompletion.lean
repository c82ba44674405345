import Threadwire.Api.HttpTurn

/-!
# The two phases of a turn's completion

A turn that resolved with a result is to be confirmed when the client has its `COMPLETED` frame and
the response is finished, and rolled back otherwise. `two_phase_completion` says exactly when the
handler does so: unless the response is down, with the transport still thought to be open, where the
handler is about to write the frame or to finish the response.
-/

namespace Threadwire

namespace HttpTurn

variable {maxSseBufferBytes : ℕ} {sink : ResponseSink} {s s' : HttpTurn} {result : TurnResult}

/-- A turn that resolved with a result is confirmed only after the client has been sent the frame
and the response was finished, it is rolled back once if it is not confirmed, and never both. -/
def CompletesInTwoPhases (s : HttpTurn) : Prop :=
  (∀ result, .confirmTurnCompletion result ∈ s.log →
    .wroteSse (.completed result) ∈ s.log ∧ .finishedSse true ∈ s.log) ∧
  (∀ result, s.result = some result → .confirmTurnCompletion result ∉ s.log →
    s.log.count (.rollbackTurnCompletion result) = 1) ∧
  ∀ result, .confirmTurnCompletion result ∈ s.log → .rollbackTurnCompletion result ∉ s.log

/-- The state in which the turn resolves is one where the handler goes on to confirm what was not
delivered: the response is down before the frame is written, or before it is finished. -/
def Undelivered (maxSseBufferBytes : ℕ) (sink : ResponseSink) (s : HttpTurn)
    (result : TurnResult) : Prop :=
  s.domainCompleted = true ∧ s.transportOpen = true ∧
    (s.response.down = true ∨
      s.accepts maxSseBufferBytes (.completed result) = true ∧
        (s.written sink (.completed result)).down = true)

/-! ## The actions of a completion -/

/-- Whether an action is part of a completion. -/
def isCompletion : HttpAction → Bool
  | .wroteSse frame => frame.event == "COMPLETED"
  | .finishedSse _ | .confirmTurnCompletion _ | .rollbackTurnCompletion _ => true
  | .wroteJson _ | .executeTurn _ | .openedSse | .refusedSse _ | .ended => false

/-- The actions of the completion, in order. -/
def completion (s : HttpTurn) : List HttpAction := s.log.filter isCompletion

/-- Of the completion, the log tells what is in it. -/
theorem mem_log_iff {action : HttpAction} (h : isCompletion action = true) :
    action ∈ s.log ↔ action ∈ s.completion := by
  rw [completion, List.mem_filter, and_iff_left h]

/-- And how often. -/
theorem count_log {action : HttpAction} (h : isCompletion action = true) :
    s.log.count action = s.completion.count action := by
  rw [completion, List.count_filter h]

/-- A record adds what is of the completion. -/
@[simp] theorem completion_record (action : HttpAction) (s : HttpTurn) :
    (s.record action).completion =
      s.completion ++ if isCompletion action then [action] else [] := by
  rw [completion, record, List.filter_append]
  cases h : isCompletion action <;> simp [h, completion]

/-- The completion is as it was. -/
structure Same (s s' : HttpTurn) : Prop where
  result : s'.result = s.result
  settled : s'.completionSettled = s.completionSettled
  phase : s'.phase = s.phase
  completion : s'.completion = s.completion

/-- Nothing has happened to it. -/
theorem Same.refl (s : HttpTurn) : Same s s := ⟨rfl, rfl, rfl, rfl⟩

/-- Nor in two steps. -/
theorem Same.trans {s'' : HttpTurn} (h : Same s s') (h' : Same s' s'') : Same s s'' :=
  ⟨h'.result.trans h.result, h'.settled.trans h.settled, h'.phase.trans h.phase,
    h'.completion.trans h.completion⟩

/-- The other variables of the handler. -/
theorem same_of_fields (hresult : s'.result = s.result)
    (hsettled : s'.completionSettled = s.completionSettled) (hphase : s'.phase = s.phase)
    (hlog : s'.log = s.log) : Same s s' :=
  ⟨hresult, hsettled, hphase, by rw [completion, completion, hlog]⟩

/-- A record that is not of the completion. -/
theorem same_record {action : HttpAction} (h : isCompletion action = false) :
    Same s (s.record action) :=
  ⟨rfl, rfl, rfl, by simp [h]⟩

/-- The end of the response is not of it. -/
theorem same_endResponse : Same s (s.endResponse sink) :=
  ⟨rfl, rfl, rfl, by rw [endResponse, completion_record]; simp [isCompletion, completion]⟩

/-- Nor is an answer in JSON. -/
theorem same_writeJson (statusCode : ℕ) : Same s (s.writeJson sink statusCode) :=
  (same_record rfl).trans same_endResponse

/-- The events that wait for the stream to open are not `COMPLETED`. -/
def PendingAreTexts (s : HttpTurn) : Prop := ∀ frame ∈ s.pendingEvents, frame.event ≠ "COMPLETED"

variable (maxSseBufferBytes sink) in
/-- Nor is a frame, but for the completed one. -/
theorem same_writeSseEvent {frame : SseFrame} (h : frame.event ≠ "COMPLETED") :
    Same s (s.writeSseEvent maxSseBufferBytes sink frame).2 ∧
      (s.writeSseEvent maxSseBufferBytes sink frame).2.pendingEvents = s.pendingEvents := by
  unfold writeSseEvent
  split
  · exact ⟨⟨rfl, rfl, rfl, by rw [completion_record]; simp [isCompletion, h, completion]⟩, rfl⟩
  · exact ⟨same_record rfl, rfl⟩

/-- An event that is delivered is no such frame. -/
theorem same_deliverEvent {frame : SseFrame} (h : frame.event ≠ "COMPLETED") :
    Same s (s.deliverEvent maxSseBufferBytes sink frame) ∧
      (s.deliverEvent maxSseBufferBytes sink frame).pendingEvents = s.pendingEvents := by
  have hwrite := same_writeSseEvent maxSseBufferBytes sink (s := s) h
  unfold deliverEvent
  generalize s.writeSseEvent maxSseBufferBytes sink frame = outcome at hwrite
  obtain ⟨hsame, hpending⟩ := hwrite
  dsimp only
  split
  · exact ⟨hsame, hpending⟩
  · exact ⟨⟨hsame.result, hsame.settled, hsame.phase, hsame.completion⟩, hpending⟩

/-- Nor is one that is sent on. -/
theorem same_sendOn {frame : SseFrame} (h : frame.event ≠ "COMPLETED") :
    Same s (s.sendOn maxSseBufferBytes sink frame) ∧
      (PendingAreTexts s → PendingAreTexts (s.sendOn maxSseBufferBytes sink frame)) := by
  unfold sendOn
  split
  · obtain ⟨hsame, hpending⟩ := same_deliverEvent (s := s) h
    refine ⟨hsame, fun htexts => ?_⟩
    rw [PendingAreTexts, hpending]
    exact htexts
  split
  · exact ⟨same_of_fields rfl rfl rfl rfl, id⟩
  · refine ⟨same_of_fields rfl rfl rfl rfl, fun htexts f hf => ?_⟩
    rcases List.mem_append.mp hf with hf | hf
    · exact htexts f hf
    · rw [List.mem_singleton.mp hf]
      exact h

/-- The listener sends only texts. -/
theorem same_listener (event : ResponseStreamEvent) :
    Same s (s.listener maxSseBufferBytes sink event) ∧
      (PendingAreTexts s → PendingAreTexts (s.listener maxSseBufferBytes sink event)) := by
  unfold listener
  split
  · exact ⟨.refl s, id⟩
  cases event with
  | completed => exact ⟨same_of_fields rfl rfl rfl rfl, id⟩
  | textDelta text => exact same_sendOn (by simp [SseFrame.ofText])
  | finalText text => exact same_sendOn (by simp [SseFrame.ofText])

variable (maxSseBufferBytes sink) in
/-- And only texts are pending. -/
theorem same_deliverPending (frames : List SseFrame)
    (h : ∀ frame ∈ frames, frame.event ≠ "COMPLETED") :
    Same s (s.deliverPending maxSseBufferBytes sink frames) := by
  induction frames generalizing s with
  | nil => exact .refl s
  | cons frame frames ih =>
    unfold deliverPending
    split
    · exact .refl s
    · exact (same_deliverEvent (h frame List.mem_cons_self)).1.trans
        (ih fun f hf => h f (List.mem_cons_of_mem _ hf))

/-! ## The ways to end -/

/-- Rolling back, or nothing to roll back. -/
theorem conclude_spec (s : HttpTurn) :
    (s.conclude sink).result = s.result ∧ (s.conclude sink).phase = .settled ∧
      (s.conclude sink).completion = s.completion ++
        match s.result with
        | none => []
        | some result =>
          if s.completionSettled then [] else [.rollbackTurnCompletion result] := by
  have hend : ∀ s : HttpTurn, (if !s.response.down then s.endResponse sink else s).result = s.result ∧
      (if !s.response.down then s.endResponse sink else s).completion = s.completion := by
    intro s
    split
    · exact ⟨same_endResponse.result, same_endResponse.completion⟩
    · exact ⟨rfl, rfl⟩
  unfold conclude
  obtain ⟨hresult, hcompletion⟩ := hend s.rollbackCompletion
  dsimp only
  refine ⟨hresult.trans ?_, rfl, hcompletion.trans ?_⟩
  · unfold rollbackCompletion
    split
    · rfl
    split <;> rfl
  · unfold rollbackCompletion
    cases hresult : s.result with
    | none => simp
    | some result =>
      dsimp only
      split
      · simp
      · rw [completion_record]
        simp [isCompletion, completion]

/-- A turn that failed has its result rolled back, if there is one that was not settled. -/
theorem failTurn_spec (error : ApiError) (s : HttpTurn) :
    (s.failTurn maxSseBufferBytes sink error).result = s.result ∧
      (s.failTurn maxSseBufferBytes sink error).phase = .settled ∧
      (s.failTurn maxSseBufferBytes sink error).completion = s.completion ++
        match s.result with
        | none => []
        | some result =>
          if s.completionSettled then [] else [.rollbackTurnCompletion result] := by
  have hwrite : ∀ s : HttpTurn, Same s
      (if s.transportOpen && !s.response.down then
        (s.writeSseEvent maxSseBufferBytes sink (.ofError error)).2
      else s) := by
    intro s
    split
    · exact (same_writeSseEvent maxSseBufferBytes sink (by simp [SseFrame.ofError])).1
    · exact .refl s
  unfold failTurn
  obtain ⟨hresult, hsettled, -, hcompletion⟩ := hwrite s.rollbackCompletion
  obtain ⟨hresult', hphase, hcompletion'⟩ := conclude_spec
    (if s.rollbackCompletion.transportOpen && !s.rollbackCompletion.response.down then
      (s.rollbackCompletion.writeSseEvent maxSseBufferBytes sink (.ofError error)).2
    else s.rollbackCompletion)
  dsimp only
  rw [hresult', hphase, hcompletion', hresult, hsettled, hcompletion]
  unfold rollbackCompletion
  cases hresult : s.result with
  | none => simp [hresult]
  | some result =>
    dsimp only
    split
    · simp [hresult]
    · simp [record, isCompletion, completion]

/-! ## The turn resolves -/

/-- The turn has not resolved. -/
structure Fresh (s : HttpTurn) : Prop where
  result : s.result = none
  settled : s.completionSettled = false
  phase : s.phase ≠ .finishing
  completion : s.completion = []
  texts : PendingAreTexts s

/-- The frame has been sent and the response is being finished. -/
structure Finishing (result : TurnResult) (s : HttpTurn) : Prop where
  resolved : s.result = some result
  settled : s.completionSettled = false
  phase : s.phase = .finishing
  completion : s.completion = [.wroteSse (.completed result)]

/-- The handler is done, and the completion was in two phases: everything was delivered and then
confirmed, or it was rolled back after what could be delivered. -/
structure Settled (result : TurnResult) (s : HttpTurn) : Prop where
  resolved : s.result = some result
  phase : s.phase = .settled
  completion : s.completion =
      [.wroteSse (.completed result), .finishedSse true, .confirmTurnCompletion result] ∨
    ∃ before, (before = [] ∨ before = [.wroteSse (.completed result), .finishedSse false]) ∧
      s.completion = before ++ [.rollbackTurnCompletion result]

/-- The handler is done, and has confirmed what was not delivered. -/
structure Defective (result : TurnResult) (s : HttpTurn) : Prop where
  phase : s.phase = .settled
  completion : s.completion = [.confirmTurnCompletion result] ∨
    s.completion = [.wroteSse (.completed result), .confirmTurnCompletion result]

/-- A settled handler has completed in two phases. -/
theorem Settled.twoPhases (h : Settled result s) : CompletesInTwoPhases s := by
  have hlog : ∀ action, isCompletion action = true → (action ∈ s.log ↔ action ∈ s.completion) :=
    fun _ => mem_log_iff
  refine ⟨fun other hconfirm => ?_, fun other hother hconfirm => ?_, fun other hconfirm => ?_⟩
  · rw [hlog _ rfl] at hconfirm
    rw [hlog _ rfl, hlog _ rfl]
    rcases h.completion with heq | ⟨before, rfl | rfl, heq⟩ <;> rw [heq] at hconfirm ⊢
    · have hresult : other = result := by simpa using hconfirm
      simp [hresult]
    · simp at hconfirm
    · simp at hconfirm
  · have hresult : other = result := by
      have heq := hother.symm.trans h.resolved
      simpa using heq
    subst hresult
    rw [hlog _ rfl] at hconfirm
    rw [count_log rfl]
    rcases h.completion with heq | ⟨before, rfl | rfl, heq⟩ <;> rw [heq] at hconfirm ⊢
    · simp at hconfirm
    · simp
    · simp
  · rw [hlog _ rfl] at hconfirm ⊢
    rcases h.completion with heq | ⟨before, rfl | rfl, heq⟩ <;> rw [heq] at hconfirm ⊢
    · simp
    · simp at hconfirm
    · simp at hconfirm

/-- A handler that confirmed what was not delivered has not. -/
theorem Defective.not_twoPhases (h : Defective result s) : ¬ CompletesInTwoPhases s := by
  rintro ⟨hdelivered, -, -⟩
  have hconfirm : .confirmTurnCompletion result ∈ s.completion := by
    rcases h.completion with heq | heq <;> simp [heq]
  obtain ⟨-, hfinished⟩ := hdelivered result ((mem_log_iff rfl).mpr hconfirm)
  rw [mem_log_iff rfl] at hfinished
  rcases h.completion with heq | heq <;> simp [heq] at hfinished

/-- A turn that never resolved has nothing to complete. -/
theorem Fresh.twoPhases (h : Fresh s) : CompletesInTwoPhases s := by
  have hnone : ∀ result, .confirmTurnCompletion result ∉ s.log := by
    intro result hmem
    rw [mem_log_iff rfl, h.completion] at hmem
    cases hmem
  refine ⟨fun result hmem => absurd hmem (hnone result), fun result hresult => ?_,
    fun result hmem => absurd hmem (hnone result)⟩
  rw [h.result] at hresult
  cases hresult

/-- Confirming or rolling back, once the response is finished or known not to be. -/
theorem settleCompletion_spec (hresult : s.result = some result)
    (hsettled : s.completionSettled = false) :
    (s.settleCompletion sink result).result = some result ∧
      (s.settleCompletion sink result).phase = .settled ∧
      (s.settleCompletion sink result).completion = s.completion ++
        [if s.transportOpen then .confirmTurnCompletion result
          else .rollbackTurnCompletion result] := by
  unfold settleCompletion
  dsimp only
  by_cases hopen : s.transportOpen = true
  · obtain ⟨hresult', hphase, hcompletion⟩ := conclude_spec
      ({ s with completionSettled := true }.record (.confirmTurnCompletion result))
    rw [if_pos hopen, if_pos hopen]
    refine ⟨hresult'.trans hresult, hphase, hcompletion.trans ?_⟩
    simp [record, hresult, completion, isCompletion]
  · obtain ⟨hresult', hphase, hcompletion⟩ := conclude_spec s.rollbackCompletion
    have hroll : s.rollbackCompletion =
        { s with completionSettled := true }.record (.rollbackTurnCompletion result) := by
      simp [rollbackCompletion, hresult, hsettled]
    rw [if_neg hopen, if_neg hopen]
    refine ⟨hresult'.trans ?_, hphase, hcompletion.trans ?_⟩
    · rw [hroll]
      exact hresult
    · rw [hroll]
      simp [record, hresult, completion, isCompletion]

/-- The end of `finishSseResponse`. -/
theorem finishedSse_spec (hresult : s.result = some result)
    (hsettled : s.completionSettled = false)
    (hcompletion : s.completion = [.wroteSse (.completed result)]) (delivered : Bool) :
    Settled result (s.finishedSse sink result delivered) := by
  obtain ⟨hresult', hphase, hend⟩ := settleCompletion_spec
    (s := { s with transportOpen := delivered }.record (.finishedSse delivered)) hresult hsettled
  have hbefore : ({ s with transportOpen := delivered }.record (.finishedSse delivered)).completion =
      [.wroteSse (.completed result), .finishedSse delivered] := by
    rw [completion_record]
    show s.completion ++ [.finishedSse delivered] = _
    rw [hcompletion]
    rfl
  rw [hbefore] at hend
  refine ⟨hresult', hphase, ?_⟩
  cases delivered with
  | true => exact .inl hend
  | false => exact .inr ⟨_, .inr rfl, hend⟩

/-- Finishing a response that is up. -/
theorem finishSseResponse_spec (hresult : s.result = some result)
    (hsettled : s.completionSettled = false)
    (hcompletion : s.completion = [.wroteSse (.completed result)]) :
    Settled result (s.finishSseResponse sink result) ∨
      Finishing result (s.finishSseResponse sink result) := by
  unfold finishSseResponse
  split
  · exact .inl (finishedSse_spec hresult hsettled hcompletion false)
  split
  · exact .inl (finishedSse_spec hresult hsettled hcompletion false)
  · refine .inr ⟨hresult, hsettled, rfl, ?_⟩
    rw [completion_record]
    show s.completion ++ [] = _
    rw [hcompletion]
    rfl

/-- Writing the frame that completes the turn: it is not tried, refused, or accepted. -/
theorem writeCompleted_cases (s : HttpTurn) (result : TurnResult) :
    (s.transportOpen = false ∨ s.response.down = true) ∧
        s.writeCompleted maxSseBufferBytes sink result = s ∨
      s.response.down = false ∧ s.accepts maxSseBufferBytes (.completed result) = false ∧
        (s.writeCompleted maxSseBufferBytes sink result).transportOpen = false ∧
        Same s (s.writeCompleted maxSseBufferBytes sink result) ∨
      s.response.down = false ∧ s.accepts maxSseBufferBytes (.completed result) = true ∧
        ∃ w, s.writeCompleted maxSseBufferBytes sink result = w ∧ w.transportOpen = true ∧
          w.response = s.written sink (.completed result) ∧ w.result = s.result ∧
          w.completionSettled = s.completionSettled ∧
          w.completion = s.completion ++ [.wroteSse (.completed result)] := by
  unfold writeCompleted
  by_cases hopen : (s.transportOpen && !s.response.down) = true
  · rw [if_pos hopen]
    have hup : s.response.down = false := by
      simpa using (Bool.and_eq_true_iff.mp hopen).2
    unfold writeSseEvent
    by_cases haccepts : s.accepts maxSseBufferBytes (.completed result) = true
    · rw [if_pos haccepts]
      refine .inr (.inr ⟨hup, haccepts, _, rfl, rfl, rfl, rfl, rfl, ?_⟩)
      show (record _ _).completion = _
      rw [completion_record]
      rfl
    · rw [if_neg haccepts]
      refine .inr (.inl ⟨hup, by simpa using haccepts, rfl, ⟨rfl, rfl, rfl, ?_⟩⟩)
      show (record _ _).completion = _
      rw [completion_record]
      exact List.append_nil _
  · rw [if_neg hopen]
    refine .inl ⟨?_, rfl⟩
    cases h : s.transportOpen <;> simp_all

/-- What the handler does with a result. -/
theorem turnResolved_spec (h : Fresh s) (result : TurnResult) :
    Undelivered maxSseBufferBytes sink s result ∧
        Defective result (s.turnResolved maxSseBufferBytes sink result) ∨
      ¬ Undelivered maxSseBufferBytes sink s result ∧
        (Settled result (s.turnResolved maxSseBufferBytes sink result) ∨
          Finishing result (s.turnResolved maxSseBufferBytes sink result)) := by
  unfold turnResolved
  dsimp only
  by_cases hdomain : s.domainCompleted = true
  swap
  · rw [if_pos (by simpa using hdomain)]
    obtain ⟨hresult, hphase, hcompletion⟩ := failTurn_spec
      (.thrown (.plain "Turn completed without the public completion boundary."))
      { s with result := some result }
    refine .inr ⟨fun hundelivered => hdomain hundelivered.1, .inl ⟨hresult, hphase, ?_⟩⟩
    refine .inr ⟨[], .inl rfl, ?_⟩
    rw [hcompletion]
    show s.completion ++ _ = _
    simp [h.completion, h.settled]
  rw [if_neg (by simpa using hdomain)]
  -- where the frame was not sent, the transport decides between confirming and rolling back
  have hsettle : ∀ w : HttpTurn, w.result = some result → w.completionSettled = false →
      w.completion = [] → w.transportOpen = false →
      Settled result (w.settleCompletion sink result) := by
    intro w hresult hsettled hcompletion hclosed
    obtain ⟨hresult', hphase, hend⟩ := settleCompletion_spec hresult hsettled
    exact ⟨hresult', hphase, .inr ⟨[], .inl rfl, by simpa [hcompletion, hclosed] using hend⟩⟩
  obtain ⟨s₁, hs₁⟩ : ∃ s₁ : HttpTurn, s₁ = { s with result := some result } := ⟨_, rfl⟩
  have hresult₁ : s₁.result = some result := by rw [hs₁]
  have hsettled₁ : s₁.completionSettled = false := by rw [hs₁]; exact h.settled
  have hcompletion₁ : s₁.completion = [] := by rw [hs₁]; exact h.completion
  have hundelivered : Undelivered maxSseBufferBytes sink s result ↔
      s₁.transportOpen = true ∧ (s₁.response.down = true ∨
        s₁.accepts maxSseBufferBytes (.completed result) = true ∧
          (s₁.written sink (.completed result)).down = true) := by
    rw [hs₁]
    exact and_iff_right hdomain
  rw [← hs₁, hundelivered]
  rcases writeCompleted_cases s₁ result with
    ⟨hclosed, hsame⟩ | ⟨hup, hrefused, hclosed, hsame⟩ |
      ⟨hup, haccepted, w, hw, hopen, hresponse, hresult, hsettled, hcompletion⟩
  · rw [hsame]
    cases hopen : s₁.transportOpen with
    | false =>
      rw [if_neg (by simp)]
      exact .inr ⟨by simp, .inl (hsettle s₁ hresult₁ hsettled₁ hcompletion₁ hopen)⟩
    | true =>
      have hdown : s₁.response.down = true := hclosed.resolve_left (by simp [hopen])
      rw [if_neg (by simp [hdown])]
      obtain ⟨-, hphase, hend⟩ := settleCompletion_spec hresult₁ hsettled₁
      exact .inl ⟨⟨rfl, .inl hdown⟩, hphase, .inl (by simpa [hcompletion₁, hopen] using hend)⟩
  · rw [if_neg (by simp [hclosed])]
    refine .inr ⟨?_, .inl (hsettle _ (hsame.result.trans hresult₁) (hsame.settled.trans hsettled₁)
      (hsame.completion.trans hcompletion₁) hclosed)⟩
    simp [hup, hrefused]
  · have hopen₁ : s₁.transportOpen = true := by
      by_contra hnot
      have hsame : s₁.writeCompleted maxSseBufferBytes sink result = s₁ := by
        unfold writeCompleted
        rw [if_neg (by simp [hnot])]
      rw [hsame] at hw
      rw [hw] at hnot
      exact hnot hopen
    rw [hw]
    have hcompletion' : w.completion = [.wroteSse (.completed result)] := by
      rw [hcompletion, hcompletion₁]
      rfl
    by_cases hdown : w.response.down = true
    · rw [if_neg (by simp [hdown])]
      obtain ⟨-, hphase, hend⟩ := settleCompletion_spec
        (hresult.trans hresult₁) (hsettled.trans hsettled₁)
      refine .inl ⟨⟨hopen₁, .inr ⟨haccepted, ?_⟩⟩, hphase,
        .inr (by simpa [hcompletion', hopen] using hend)⟩
      rw [← hresponse]
      exact hdown
    · rw [if_pos (by simpa [hopen] using hdown)]
      refine .inr ⟨?_, finishSseResponse_spec (hresult.trans hresult₁) (hsettled.trans hsettled₁)
        hcompletion'⟩
      rintro ⟨-, hdown' | ⟨-, hdown'⟩⟩
      · rw [hup] at hdown'
        cases hdown'
      · rw [hresponse] at hdown
        exact hdown hdown'

/-! ## Runs -/

/-- A turn that has not resolved has no completion yet. -/
theorem Fresh.of_same (h : Fresh s) (hsame : Same s s') (htexts : PendingAreTexts s')
    {phase : HttpPhase} (hphase : phase ≠ .finishing) : Fresh { s' with phase } :=
  ⟨hsame.result.trans h.result, hsame.settled.trans h.settled, hphase,
    hsame.completion.trans h.completion, htexts⟩

/-- Without a result there is nothing to roll back. -/
theorem rollbackCompletion_of_none (h : s.result = none) : s.rollbackCompletion = s := by
  rw [rollbackCompletion, h]

/-- A turn that was rejected has nothing to roll back. -/
theorem Fresh.failTurn (h : Fresh s) (error : ApiError) :
    Fresh (s.failTurn maxSseBufferBytes sink error) := by
  unfold HttpTurn.failTurn
  rw [rollbackCompletion_of_none h.result]
  dsimp only
  have hwrite : ∀ w : HttpTurn, w = (if s.transportOpen && !s.response.down then
      (s.writeSseEvent maxSseBufferBytes sink (.ofError error)).2 else s) →
      Same s w ∧ PendingAreTexts w := by
    rintro w rfl
    split
    · obtain ⟨hsame, hpending⟩ := same_writeSseEvent maxSseBufferBytes sink (s := s)
        (show (SseFrame.ofError error).event ≠ "COMPLETED" by simp [SseFrame.ofError])
      refine ⟨hsame, ?_⟩
      rw [PendingAreTexts, hpending]
      exact h.texts
    · exact ⟨.refl s, h.texts⟩
  generalize hw : (if s.transportOpen && !s.response.down then
      (s.writeSseEvent maxSseBufferBytes sink (.ofError error)).2 else s) = w
  obtain ⟨hsame, htexts⟩ := hwrite w hw.symm
  unfold conclude
  rw [rollbackCompletion_of_none (hsame.result.trans h.result)]
  dsimp only
  split
  · exact h.of_same (hsame.trans same_endResponse) htexts (by simp)
  · exact h.of_same hsame htexts (by simp)

/-- Only a handler that is finishing hears the response. -/
theorem onResponseEvent_of_phase (h : s.phase ≠ .finishing) (delivered : Bool) :
    s.onResponseEvent sink delivered = s := by
  unfold onResponseEvent
  split
  · exact absurd ‹_› h
  · rfl

/-- An abort of the request aborts the controller's signal, or nothing. -/
theorem onRequestAborted_cases (s : HttpTurn) :
    s.onRequestAborted = s ∨ s.onRequestAborted = s.abort := by
  unfold onRequestAborted
  split
  · exact .inr rfl
  · exact .inl rfl

/-- So does the close of the response. -/
theorem onResponseClose_cases (s : HttpTurn) :
    s.onResponseClose = s ∨ s.onResponseClose = s.abort := by
  unfold onResponseClose
  split
  · exact .inr rfl
  · exact .inl rfl

/-- Any step but the turn's resolution. -/
theorem Fresh.step (h : Fresh s) {input : HttpInput} (hinput : ∀ result, input ≠ .resolved result)
    (hstep : s.step maxSseBufferBytes sink input = some s') : Fresh s' := by
  -- A JSON answer, a change of phase and an abort leave the result and the frames alone.
  have hjson : ∀ statusCode, Fresh { s.writeJson sink statusCode with phase := .settled } :=
    fun statusCode => h.of_same (same_writeJson statusCode) h.texts (by simp)
  have hphase : ∀ {phase : HttpPhase}, phase ≠ .finishing → Fresh { s with phase } :=
    h.of_same (.refl s) h.texts
  have habort : Fresh s.abort := ⟨h.result, h.settled, h.phase, h.completion, h.texts⟩
  cases input with
  | headers contentType contentEncoding =>
    simp only [HttpTurn.step, Option.ite_none_right_eq_some, Option.some.injEq] at hstep
    obtain ⟨-, rfl⟩ := hstep
    unfold checkHeaders
    split
    · exact hjson 415
    split
    · exact hjson 415
    · exact hphase (by simp)
  | bodyRead body =>
    simp only [HttpTurn.step, Option.ite_none_right_eq_some, Option.some.injEq] at hstep
    obtain ⟨-, rfl⟩ := hstep
    unfold bodyRead
    split
    · split
      · exact hjson _
      · exact hphase (by simp)
    · split
      · exact hphase (by simp)
      · exact h.of_same (same_record rfl) h.texts (by simp)
  | event event =>
    simp only [HttpTurn.step, Option.ite_none_right_eq_some, Option.some.injEq] at hstep
    obtain ⟨-, rfl⟩ := hstep
    obtain ⟨hsame, htexts⟩ := same_listener
      (s := s) event
    exact ⟨hsame.result.trans h.result, hsame.settled.trans h.settled,
      by rw [hsame.phase]; exact h.phase, hsame.completion.trans h.completion, htexts h.texts⟩
  | returned =>
    simp only [HttpTurn.step, Option.ite_none_right_eq_some, Option.some.injEq] at hstep
    obtain ⟨-, rfl⟩ := hstep
    have hstream : Same s { s with streamOpened := true } := same_of_fields rfl rfl rfl rfl
    have hopened : Same s (record .openedSse { s with streamOpened := true }) :=
      hstream.trans (same_record rfl)
    have hsame := hopened.trans (same_deliverPending maxSseBufferBytes sink s.pendingEvents h.texts)
    exact ⟨hsame.result.trans h.result, hsame.settled.trans h.settled, by simp [openStream],
      hsame.completion.trans h.completion, fun frame hframe => nomatch hframe⟩
  | threw error =>
    simp only [HttpTurn.step, Option.ite_none_right_eq_some, Option.some.injEq] at hstep
    obtain ⟨-, rfl⟩ := hstep
    unfold executionThrew
    split
    · exact hjson _
    · exact hphase (by simp)
  | resolved result => exact absurd rfl (hinput result)
  | rejected error =>
    simp only [HttpTurn.step, Option.ite_none_right_eq_some, Option.some.injEq] at hstep
    obtain ⟨-, rfl⟩ := hstep
    exact h.failTurn error
  | requestAborted =>
    cases hstep
    rcases onRequestAborted_cases s with heq | heq <;> rw [heq]
    · exact h
    · exact habort
  | responseFinish | responseError =>
    cases hstep
    rw [onResponseEvent_of_phase h.phase]
    exact h
  | responseClose =>
    cases hstep
    rcases onResponseClose_cases s with heq | heq <;> rw [heq]
    · rw [onResponseEvent_of_phase h.phase]
      exact h
    · rw [onResponseEvent_of_phase habort.phase]
      exact habort
  | transport response =>
    cases hstep
    exact ⟨h.result, h.settled, h.phase, h.completion, h.texts⟩

/-- What can still happen once the turn has resolved: the response's events, aborts and changes of
the transport. -/
theorem step_after {input : HttpInput} (hphase : s.phase = .finishing ∨ s.phase = .settled)
    (hstep : s.step maxSseBufferBytes sink input = some s') :
    (∀ result, input ≠ .resolved result) ∧
      ∃ w : HttpTurn, w.phase = s.phase ∧ w.result = s.result ∧
        w.completionSettled = s.completionSettled ∧ w.completion = s.completion ∧
        (s' = w ∨ ∃ delivered, s' = w.onResponseEvent sink delivered) := by
  have hnever : ∀ phase : HttpPhase, phase ≠ .finishing → phase ≠ .settled → s.phase ≠ phase := by
    rintro phase hfinishing hsettled rfl
    exact hphase.elim hfinishing hsettled
  -- A handler that waits for nothing more hears only the response's events, aborts and the
  -- transport.
  cases input with
  | headers contentType contentEncoding =>
    simp [HttpTurn.step, hnever .checking (by simp) (by simp)] at hstep
  | bodyRead body => simp [HttpTurn.step, hnever .reading (by simp) (by simp)] at hstep
  | event event =>
    simp [HttpTurn.step, hnever .executing (by simp) (by simp),
      hnever .streaming (by simp) (by simp)] at hstep
  | returned => simp [HttpTurn.step, hnever .executing (by simp) (by simp)] at hstep
  | threw error => simp [HttpTurn.step, hnever .executing (by simp) (by simp)] at hstep
  | resolved result => simp [HttpTurn.step, hnever .streaming (by simp) (by simp)] at hstep
  | rejected error => simp [HttpTurn.step, hnever .streaming (by simp) (by simp)] at hstep
  | requestAborted =>
    cases hstep
    refine ⟨by simp, s.onRequestAborted, ?_⟩
    rcases onRequestAborted_cases s with heq | heq <;> rw [heq] <;>
      exact ⟨rfl, rfl, rfl, rfl, .inl rfl⟩
  | responseFinish =>
    cases hstep
    exact ⟨by simp, s, rfl, rfl, rfl, rfl, .inr ⟨true, rfl⟩⟩
  | responseClose =>
    cases hstep
    refine ⟨by simp, s.onResponseClose, ?_⟩
    rcases onResponseClose_cases s with heq | heq <;> rw [heq] <;>
      exact ⟨rfl, rfl, rfl, rfl, .inr ⟨false, rfl⟩⟩
  | responseError =>
    cases hstep
    exact ⟨by simp, s, rfl, rfl, rfl, rfl, .inr ⟨false, rfl⟩⟩
  | transport response =>
    cases hstep
    exact ⟨by simp, { s with response }, rfl, rfl, rfl, rfl, .inl rfl⟩

/-- A handler that is finishing confirms, or rolls back. -/
theorem Finishing.step (h : Finishing result s) {input : HttpInput}
    (hstep : s.step maxSseBufferBytes sink input = some s') :
    Finishing result s' ∨ Settled result s' := by
  obtain ⟨-, w, hphase, hresult, hsettled, hcompletion, heffect⟩ := step_after (.inl h.phase) hstep
  have hw : Finishing result w := ⟨hresult.trans h.resolved, hsettled.trans h.settled,
    hphase.trans h.phase, hcompletion.trans h.completion⟩
  rcases heffect with rfl | ⟨delivered, rfl⟩
  · exact .inl hw
  · unfold onResponseEvent
    rw [hw.phase, hw.resolved]
    exact .inr (finishedSse_spec hw.resolved hw.settled hw.completion delivered)

/-- Nothing more happens to a completion once the handler is done. -/
theorem step_settled {input : HttpInput} (hdone : s.phase = .settled)
    (hstep : s.step maxSseBufferBytes sink input = some s') :
    s'.phase = .settled ∧ s'.result = s.result ∧ s'.completion = s.completion := by
  obtain ⟨-, w, hphase, hresult, -, hcompletion, heffect⟩ := step_after (.inr hdone) hstep
  have hsame : s' = w := by
    rcases heffect with heq | ⟨delivered, heq⟩
    · exact heq
    · rw [heq, onResponseEvent_of_phase (by rw [hphase, hdone]; simp)]
  rw [hsame]
  exact ⟨hphase.trans hdone, hresult, hcompletion⟩

variable {inputs : List HttpInput}

/-- After the turn has resolved, and the handler goes by the book. -/
theorem exec_resolved (h : Settled result s ∨ Finishing result s)
    (hrun : Machine.exec (step maxSseBufferBytes sink) s inputs = some s') :
    Settled result s' ∨ Finishing result s' := by
  refine Machine.exec_invariant (I := fun s => Settled result s ∨ Finishing result s) ?_ h hrun
  rintro s input s' (hsettled | hfinishing) hstep
  · obtain ⟨hphase, hresult, hcompletion⟩ := step_settled hsettled.phase hstep
    exact .inl ⟨hresult.trans hsettled.resolved, hphase, by rw [hcompletion]; exact hsettled.completion⟩
  · exact (hfinishing.step hstep).symm

/-- After it confirmed what was not delivered. -/
theorem exec_defective (h : Defective result s)
    (hrun : Machine.exec (step maxSseBufferBytes sink) s inputs = some s') : Defective result s' := by
  refine Machine.exec_invariant ?_ h hrun
  intro s input s' hdefective hstep
  obtain ⟨hphase, -, hcompletion⟩ := step_settled hdefective.phase hstep
  exact ⟨hphase, by rw [hcompletion]; exact hdefective.completion⟩

/-- No turn resolves twice. -/
theorem exec_not_resolved (hphase : s.phase = .finishing ∨ s.phase = .settled)
    (hrun : Machine.exec (step maxSseBufferBytes sink) s inputs = some s') :
    ∀ input ∈ inputs, ∀ result, input ≠ .resolved result := by
  induction inputs generalizing s with
  | nil => exact fun _ h => nomatch h
  | cons input inputs ih =>
    obtain ⟨s₁, hstep, hrest⟩ := Machine.exec_cons_eq_some.mp hrun
    obtain ⟨hinput, w, hw, -, -, -, heffect⟩ := step_after hphase hstep
    have hphase₁ : s₁.phase = .finishing ∨ s₁.phase = .settled := by
      rcases heffect with rfl | ⟨delivered, rfl⟩
      · rw [hw]
        exact hphase
      · unfold onResponseEvent
        split
        · exact .inr (conclude_spec _).2.1
        · rw [hw]
          exact hphase
    intro i hi
    rcases List.mem_cons.mp hi with rfl | hi
    · exact hinput
    · exact ih hphase₁ hrest i hi

/-- Nothing more resolves once the handler goes by the book, or has left it. -/
theorem along_after {P : HttpTurn → TurnResult → Prop}
    (hphase : s.phase = .finishing ∨ s.phase = .settled)
    (hrun : Machine.exec (step maxSseBufferBytes sink) s inputs = some s') :
    Machine.Along (step maxSseBufferBytes sink)
      (fun s input => ∀ result, input = .resolved result → P s result) s inputs := by
  have hnever := exec_not_resolved hphase hrun
  clear hphase hrun
  induction inputs generalizing s with
  | nil => trivial
  | cons input inputs ih =>
    refine ⟨fun result heq => absurd heq (hnever input List.mem_cons_self result), ?_⟩
    split
    · trivial
    · exact ih fun i hi => hnever i (List.mem_cons_of_mem _ hi)

/-- A run from a state in which the turn has not resolved. -/
theorem Fresh.completes (h : Fresh s)
    (hrun : Machine.exec (HttpTurn.step maxSseBufferBytes sink) s inputs = some s')
    (hdone : s'.phase = .settled) :
    CompletesInTwoPhases s' ↔
      Machine.Along (HttpTurn.step maxSseBufferBytes sink)
        (fun s input => ∀ result, input = .resolved result →
          ¬ Undelivered maxSseBufferBytes sink s result) s inputs := by
  -- The induction is on the run: before the turn resolves every step keeps the fresh state.
  induction inputs generalizing s with
  | nil =>
    cases hrun
    exact iff_of_true h.twoPhases trivial
  | cons input inputs ih =>
    obtain ⟨s₁, hstep, hrest⟩ := Machine.exec_cons_eq_some.mp hrun
    -- The turn resolves here: this step decides between the two ends.
    by_cases hinput : ∃ result, input = .resolved result
    · obtain ⟨result, rfl⟩ := hinput
      have hstep' := hstep
      simp only [HttpTurn.step, Option.ite_none_right_eq_some, Option.some.injEq] at hstep'
      obtain ⟨-, rfl⟩ := hstep'
      have hafter : ∀ {P : HttpTurn → TurnResult → Prop},
          Machine.Along (HttpTurn.step maxSseBufferBytes sink)
            (fun s input => ∀ result, input = .resolved result → P s result) s
            (.resolved result :: inputs) ↔ P s result := by
        intro P
        have hphase : (s.turnResolved maxSseBufferBytes sink result).phase = .finishing ∨
            (s.turnResolved maxSseBufferBytes sink result).phase = .settled := by
          rcases turnResolved_spec h result
            with ⟨-, hdefective⟩ | ⟨-, hsettled | hfinishing⟩
          · exact .inr hdefective.phase
          · exact .inr hsettled.phase
          · exact .inl hfinishing.phase
        rw [Machine.Along, hstep]
        refine ⟨fun hall => hall.1 result rfl, fun hP => ⟨?_, along_after hphase hrest⟩⟩
        rintro _ ⟨⟩
        exact hP
      rw [hafter (P := fun s result => ¬ Undelivered maxSseBufferBytes sink s result)]
      rcases turnResolved_spec h result with
        ⟨hundelivered, hdefective⟩ | ⟨hdelivered, hgood⟩
      · exact iff_of_false (exec_defective hdefective hrest).not_twoPhases
          (not_not_intro hundelivered)
      · refine iff_of_true ?_ hdelivered
        rcases exec_resolved hgood hrest with hsettled | hfinishing
        · exact hsettled.twoPhases
        · cases hdone.symm.trans hfinishing.phase
    · have hinput' : ∀ result, input ≠ .resolved result := fun result heq => hinput ⟨result, heq⟩
      rw [ih (h.step hinput' hstep) hrest, Machine.Along, hstep]
      exact (and_iff_right fun result heq => absurd heq (hinput' result)).symm

/-- The completion of a turn is in two phases in exactly the runs in which, where the turn resolves,
the handler is not about to confirm what it has not delivered. -/
theorem two_phase_completion (maxSseBufferBytes : ℕ) (sink : ResponseSink) (inputs : List HttpInput)
    (final : HttpTurn) (hrun : Machine.exec (step maxSseBufferBytes sink) {} inputs = some final)
    (hdone : final.phase = .settled) :
    CompletesInTwoPhases final ↔
      Machine.Along (step maxSseBufferBytes sink)
        (fun s input => ∀ result, input = .resolved result →
          ¬ Undelivered maxSseBufferBytes sink s result) {} inputs :=
  Fresh.completes ⟨rfl, rfl, by simp, rfl, fun _ h => nomatch h⟩ hrun hdone

/-- A response whose calls take effect as they should. -/
def workingSink : ResponseSink where
  write _ response _ := response
  finish _ response := some { response with writableEnded := true }

/-- A turn that the client gets whole. -/
def deliveredTurn : List HttpInput :=
  [.headers (some (Text.of "application/json")) none,
    .bodyRead (.ok { target := .fresh, prompt := Text.of "hi" }), .event (.textDelta (Text.of "a")),
    .returned, .event (.finalText (Text.of "a")), .event .completed,
    .resolved { threadHandle := "thread_1", created := true }, .responseFinish]

/-- The same turn, but the client is gone when it resolves. -/
def abandonedTurn : List HttpInput :=
  [.headers (some (Text.of "application/json")) none,
    .bodyRead (.ok { target := .fresh, prompt := Text.of "hi" }), .returned,
    .event (.textDelta (Text.of "a")), .event (.finalText (Text.of "a")), .event .completed,
    .transport { destroyed := true }, .responseClose,
    .resolved { threadHandle := "thread_1", created := true }]

/-- The turn that the client got whole is confirmed. -/
theorem two_phase_completion_delivered :
    ∃ final, Machine.exec (step 1024 workingSink) {} deliveredTurn = some final ∧
      .confirmTurnCompletion { threadHandle := "thread_1", created := true } ∈ final.completion ∧
      CompletesInTwoPhases final := by
  have hend : (Machine.exec (step 1024 workingSink) {} deliveredTurn).map
      (fun s => (s.phase, s.completion)) =
      some (.settled, [.wroteSse (.completed { threadHandle := "thread_1", created := true }),
        .finishedSse true,
        .confirmTurnCompletion { threadHandle := "thread_1", created := true }]) := by
    decide +kernel
  obtain ⟨final, hrun, heq⟩ := Option.map_eq_some_iff.mp hend
  obtain ⟨hphase, hcompletion⟩ := Prod.mk.injEq _ _ _ _ ▸ heq
  refine ⟨final, hrun, by rw [hcompletion]; decide,
    (two_phase_completion 1024 workingSink deliveredTurn final hrun hphase).mpr ?_⟩
  refine ⟨nofun, nofun, nofun, nofun, nofun, nofun, ?_, nofun, trivial⟩
  rintro _ ⟨⟩ ⟨-, -, hdown | ⟨-, hdown⟩⟩
  · exact absurd hdown (by decide +kernel)
  · exact absurd hdown (by decide +kernel)

/-- The turn of a client that is gone is confirmed. -/
theorem abandonedTurn_confirmed :
    ∃ final, Machine.exec (step 1024 workingSink) {} abandonedTurn = some final ∧
      final.phase = .settled ∧
      .confirmTurnCompletion { threadHandle := "thread_1", created := true } ∈ final.log ∧
      ¬ CompletesInTwoPhases final := by
  have hend : (Machine.exec (step 1024 workingSink) {} abandonedTurn).map
      (fun s => (s.phase, s.completion)) =
      some (.settled,
        [.confirmTurnCompletion { threadHandle := "thread_1", created := true }]) := by
    decide +kernel
  obtain ⟨final, hrun, heq⟩ := Option.map_eq_some_iff.mp hend
  obtain ⟨hphase, hcompletion⟩ := Prod.mk.injEq _ _ _ _ ▸ heq
  refine ⟨final, hrun, hphase, (mem_log_iff rfl).mpr (by rw [hcompletion]; decide), ?_⟩
  exact Defective.not_twoPhases ⟨hphase, .inl hcompletion⟩

end HttpTurn

end Threadwire
