import Threadwire.Effect.Maintains
import Threadwire.Turn.TurnExecutor

/-!
# What the parts of a turn keep

Rules that say which invariants of a turn its parts maintain. An invariant is about the trace and
the response state, and three structures name what it has to be closed under: `Neutral`, actions
that no invariant looks at, `ResponseClosed`, what the delivery of the response does besides calling
the listener, and `Indifferent`, anything that is about the response. `Exits` is about the ways to
leave a turn that the executor singles out: it marks the lease, or throws a
`RuntimeGenerationChangedError` on.
-/

namespace Threadwire

/-- The run, with one more action. -/
def TurnRun.log (run : TurnRun) (action : TurnAction) : TurnRun :=
  { run with trace := run.trace ++ [action] }

namespace TurnAction

/-- The actions that no invariant looks at. -/
def isNeutral : TurnAction → Bool
  | .dispatched _ | .returned _ | .armedTurnObservation _ | .routeRead _ | .registered _ _
  | .reserved _ _ | .rolledBack _ => true
  | .observed _ | .committed | .polled _ | .checkedCancellation _ _ | .delivered _ _
  | .failedResponse _ | .markedUncertain _ | .generationChanged | .releasedTurnObservation _ => false

/-- The actions of the response's delivery. -/
def isDelivery : TurnAction → Bool
  | .delivered _ _ | .failedResponse _ => true
  | _ => false

end TurnAction

namespace TurnExecutor

open Effect

/-- The error that the release of the observation threw. -/
def releaseError? : TurnAction → Option ThrownError
  | .releasedTurnObservation error => error
  | _ => none

/-- The error of a release is in its action. -/
theorem releaseError?_eq_some {action : TurnAction} {error : ThrownError} :
    releaseError? action = some error ↔ action = .releasedTurnObservation (some error) := by
  cases action <;> simp [releaseError?]

/-- A statement about a trace and a response state. -/
abbrev TurnInvariant := List TurnAction → Option ResponseDeliveryState → Prop

/-- An invariant, of a run. -/
def On (I : TurnInvariant) (run : TurnRun) : Prop := I run.trace run.responseState

/-- The invariant survives neutral actions. -/
def Neutral (I : TurnInvariant) : Prop :=
  ∀ trace state action, action.isNeutral = true → I trace state → I (trace ++ [action]) state

/-- The invariant survives what the delivery does, the calls of the listener apart. Where a terminal
error is recorded, the response is discarded at once. -/
structure ResponseClosed (I : TurnInvariant) : Prop where
  discarded : ∀ trace state, I trace (some state) → I trace (some { state with discarded := true })
  completed : ∀ trace state, I trace (some state) →
    I trace (some { state with semanticCompleted := true })
  failed : ∀ trace state error, I trace (some state) → state.terminalError = none →
    I (trace ++ [.failedResponse error])
      (some { state with terminalError := some error, discarded := true })

/-- The invariant is not about the response. -/
structure Indifferent (I : TurnInvariant) : Prop where
  state : ∀ trace state state', I trace state → I trace state'
  delivery : ∀ trace state action, action.isDelivery = true → I trace state →
    I (trace ++ [action]) state

/-- What is not about the response survives any change of it. -/
theorem Indifferent.responseClosed {I : TurnInvariant} (h : Indifferent I) : ResponseClosed I where
  discarded _ _ := h.state _ _ _
  completed _ _ := h.state _ _ _
  failed _ _ _ hI _ := h.delivery _ _ _ rfl (h.state _ _ _ hI)

/-- What `E` must allow: to hang, to fail closed, and to throw a changed generation on. -/
structure Exits (c : TurnCall) (I : TurnInvariant) (E : Interrupt ThrownError → TurnRun → Prop) :
    Prop where
  pending : ∀ run, On I run → E .pending run
  failClosed : ∀ run error, On I run → E (.thrown error) (run.log (.markedUncertain c.lease))
  rethrow : ∀ run error, error.isInstance .runtimeGenerationChanged = true → On I run →
    E (.thrown error) (run.log .generationChanged)

variable {c : TurnCall} {I : TurnInvariant} {E : Interrupt ThrownError → TurnRun → Prop}

/-! ## Questions and records -/

section Primitives

variable {α : Type} {run : TurnRun}

/-- A record appends to the trace. -/
@[simp] theorem wp_record (action : TurnAction) {Q : Unit → TurnRun → Prop} :
    wp (record action) Q E run ↔ Q () (run.log action) := Iff.rfl

/-- A question is answered by its number. -/
@[simp] theorem wp_ask (answers : ℕ → α) {Q : α → TurnRun → Prop} :
    wp (ask answers) Q E run ↔ Q (answers run.asked) { run with asked := run.asked + 1 } := Iff.rfl

/-- The signal is looked at between two questions. -/
@[simp] theorem wp_isAborted {Q : Bool → TurnRun → Prop} :
    wp (isAborted c) Q E run ↔ Q (abortedAt c run.asked) run := Iff.rfl

/-- The response is read. -/
@[simp] theorem wp_readResponse {Q : Option ResponseDeliveryState → TurnRun → Prop} :
    wp readResponse Q E run ↔ Q run.responseState run := Iff.rfl

/-- The response is changed, where there is one. -/
@[simp] theorem wp_modifyResponse (f : ResponseDeliveryState → ResponseDeliveryState)
    {Q : Unit → TurnRun → Prop} :
    wp (modifyResponse f) Q E run ↔
      Q () { run with responseState := run.responseState.map f } := Iff.rfl

/-- A method of the registry is run on the turn's registry. -/
theorem wp_onRegistry (method : RegistryM α) {Q : α → TurnRun → Prop} :
    wp (onRegistry method) Q E run ↔
      wp method (fun a registry => Q a { run with registry })
        (fun e registry => E (.thrown e) { run with registry }) run.registry := by
  unfold wp onRegistry
  rcases method run.registry with ⟨_ | _, _⟩ <;> exact Iff.rfl

/-- No invariant is about the questions that were asked. -/
theorem maintains_ask (answers : ℕ → α) : Maintains (On I) E (ask answers) := fun _ hI => hI

/-- Nor about the signal. -/
theorem maintains_isAborted : Maintains (On I) E (isAborted c) := fun _ hI => hI

/-- The response may be looked at. -/
theorem maintains_readResponse : Maintains (On I) E readResponse := fun _ hI => hI

/-- What no invariant looks at may be recorded. -/
theorem maintains_record (hneutral : Neutral I) {action : TurnAction}
    (h : action.isNeutral = true) : Maintains (On I) E (record action) :=
  fun _ hI => hneutral _ _ _ h hI

/-- The registry is in no invariant. -/
theorem maintains_onRegistry (method : RegistryM α) :
    Maintains (On I) (fun _ => On I) (onRegistry method) := by
  intro run hI
  rw [wp_onRegistry]
  unfold wp
  rcases method run.registry with ⟨_ | _, _⟩ <;> exact hI

end Primitives

/-! ## Commands and routes -/

section Commands

variable {α : Type}

/-- An abort throws, and changes nothing. -/
theorem maintains_throwIfAborted : Maintains (On I) (fun _ => On I) (throwIfAborted c) :=
  maintains_isAborted.bind fun _ => .onlyIf fun _ => maintains_fail fun _ hI => hI

/-- A command only leaves a record of itself. -/
theorem maintains_withTimeout (hneutral : Neutral I) (passSignal : Bool) (message : String)
    (command : TurnCommand) (answers : ℕ → CommandRace α) :
    Maintains (On I) (fun _ => On I) (withTimeout c passSignal message command answers) := by
  unfold withTimeout
  refine (Maintains.onlyIf fun _ => maintains_throwIfAborted).bind fun _ => ?_
  refine (maintains_record hneutral rfl).bind fun _ => (maintains_ask answers).bind fun race => ?_
  rcases race with (error | a) | _ | _
  · exact maintains_fail fun _ hI => hI
  · exact (maintains_record hneutral rfl).bind fun _ => maintains_pure a
  · exact maintains_fail fun _ hI => hI
  · refine maintains_isAborted.bind fun aborted => .ite (fun _ => ?_) fun _ => ?_
    · exact maintains_fail fun _ hI => hI
    · exact maintains_fail fun _ hI => hI

/-- The route is read without a change that an invariant could see. -/
theorem maintains_readRoute (hneutral : Neutral I) (message : String) :
    Maintains (On I) (fun _ => On I) (readRoute c message) :=
  (maintains_withTimeout hneutral _ _ _ _).bind fun locator =>
    (maintains_record hneutral rfl).bind fun _ => maintains_pure locator

/-- So is a conversation registered. -/
theorem maintains_registerWithStatus (hneutral : Neutral I) (locator : ConversationLocator) :
    Maintains (On I) (fun _ => On I) (registerWithStatus c locator) :=
  (maintains_ask _).bind fun _ => (maintains_onRegistry _).bind fun result =>
    (maintains_record hneutral rfl).bind fun _ => maintains_pure result

/-- Or reserved. -/
theorem maintains_reserveProvisionalWithStatus (hneutral : Neutral I)
    (locator : ConversationLocator) :
    Maintains (On I) (fun _ => On I) (reserveProvisionalWithStatus c locator) :=
  (maintains_ask _).bind fun _ => (maintains_onRegistry _).bind fun result =>
    (maintains_record hneutral rfl).bind fun _ => maintains_pure result

/-- Failing closed never returns. -/
theorem Exits.wp_failClosed (hexits : Exits c I E) {cause : ThrownError} {run : TurnRun}
    (hI : On I run) {Q : α → TurnRun → Prop} :
    wp (TurnExecutor.failClosed c cause) Q E run :=
  hexits.failClosed run _ hI

/-- Neither does throwing on. -/
theorem Exits.wp_rethrow (hexits : Exits c I E) {error : ThrownError} {run : TurnRun}
    (h : error.isInstance .runtimeGenerationChanged = true) (hI : On I run)
    {Q : α → TurnRun → Prop} : wp (rethrowGenerationChange error) Q E run :=
  hexits.rethrow run error h hI

/-- A part that fails closed leaves as it is allowed to. -/
theorem maintains_failClosed (hexits : Exits c I E) (cause : ThrownError) :
    Maintains (On I) E (failClosed c cause : TurnM α) :=
  fun _ hI => hexits.wp_failClosed hI

/-- And so does one that throws a changed generation on. -/
theorem maintains_rethrow (hexits : Exits c I E) {error : ThrownError}
    (h : error.isInstance .runtimeGenerationChanged = true) :
    Maintains (On I) E (rethrowGenerationChange error : TurnM α) :=
  fun _ hI => hexits.wp_rethrow h hI

/-- An attempt at something that keeps the invariant even when it throws. -/
theorem maintains_attempt (hexits : Exits c I E) {x : TurnM α}
    (hx : Maintains (On I) (fun _ => On I) x) : Maintains (On I) E (attempt x) :=
  hx.attempt hexits.pending

end Commands

/-! ## The delivery of the response -/

section Response

/-- Recording a terminal error where the response is discarded. -/
theorem wp_recordTerminalError (hclosed : ResponseClosed I) (error : ThrownError) {run : TurnRun}
    (hI : On I run) (hdiscarded : ∀ state ∈ run.responseState, state.discarded = true) :
    wp (recordTerminalError error) (fun _ => On I) E run := by
  simp only [recordTerminalError, wp_bind, wp_readResponse]
  cases hstate : run.responseState with
  | none => exact hI
  | some state =>
    dsimp only
    cases herror : state.terminalError with
    | some _ => exact hI
    | none =>
      rw [On, hstate] at hI
      simp only [wp_bind, wp_modifyResponse, wp_record, hstate, Option.map_some]
      have hfailed := hclosed.failed _ _ error hI herror
      rw [← hdiscarded state hstate] at hfailed
      exact hfailed

/-- What `discardResponse` does once the response counts as discarded. -/
theorem wp_discard (hclosed : ResponseClosed I) (hexits : Exits c I E) (cancellation : Bool)
    {run : TurnRun} (hI : On I run)
    (hdiscarded : ∀ state ∈ run.responseState, state.discarded = true) :
    wp (if !c.port.discardTurnResponse then
        onlyIf (!cancellation) (recordTerminalError (.ofCode .responseStreamUnavailable))
      else do
        match ← ask c.environment.discardTurnResponse with
        | .ok () => pure ()
        | .error error =>
          if error.isInstance .runtimeGenerationChanged then rethrowGenerationChange error
          else if error.isInstance .cdpDisconnected then failClosed c error
          else onlyIf (!cancellation) (recordTerminalError (.ofCode .responseStreamFailed)))
      (fun _ => On I) E run := by
  -- where the discard was refused or failed, that is the response's terminal error, unless the
  -- caller has cancelled the turn
  have hrecord : ∀ (error : ThrownError) (run : TurnRun), On I run →
      (∀ state ∈ run.responseState, state.discarded = true) →
      wp (onlyIf (!cancellation) (recordTerminalError error)) (fun _ => On I) E run := by
    intro error run hI hdiscarded
    rw [wp_onlyIf]
    split
    · exact wp_recordTerminalError hclosed error hI hdiscarded
    · exact hI
  rw [wp_ite]
  split
  · exact hrecord _ run hI hdiscarded
  · rw [wp_bind, wp_ask]
    have hasked : On I { run with asked := run.asked + 1 } := hI
    rcases c.environment.discardTurnResponse run.asked with error | _
    · dsimp only
      rw [wp_ite, wp_ite]
      split
      · exact hexits.wp_rethrow ‹_› hasked
      split
      · exact hexits.wp_failClosed hasked
      · exact hrecord _ _ hasked hdiscarded
    · exact hasked

/-- A response is discarded at most once. -/
theorem maintains_discardResponse (hclosed : ResponseClosed I) (hexits : Exits c I E)
    (cancellation : Bool) : Maintains (On I) E (discardResponse c cancellation) := by
  intro run hI
  simp only [discardResponse, wp_bind, wp_readResponse]
  cases hstate : run.responseState with
  | none => exact hI
  | some state =>
    dsimp only
    by_cases hdiscarded : state.discarded = true
    · rw [if_pos hdiscarded]
      exact hI
    · rw [if_neg hdiscarded, wp_bind, wp_modifyResponse, hstate]
      rw [On, hstate] at hI
      refine wp_discard hclosed hexits cancellation (hclosed.discarded _ _ hI) ?_
      rintro state' ⟨⟩
      rfl

/-- Recording a terminal error, where there is none, and discarding the response. -/
theorem wp_failResponse (hclosed : ResponseClosed I) (hexits : Exits c I E) {error : ThrownError}
    {run : TurnRun} {state : ResponseDeliveryState} (hstate : run.responseState = some state)
    (herror : state.terminalError = none)
    (hfailed : I (run.trace ++ [.failedResponse error])
      (some { state with terminalError := some error, discarded := true })) :
    wp (failResponse c error) (fun _ => On I) E run := by
  rw [failResponse, wp_bind]
  simp only [recordTerminalError, wp_bind, wp_readResponse, hstate, herror, wp_modifyResponse,
    wp_record, Option.map_some, discardResponse]
  by_cases hdiscarded : state.discarded = true
  · simp only [TurnRun.log, hdiscarded, if_true]
    exact hfailed
  · simp only [TurnRun.log, hdiscarded, Bool.false_eq_true, if_false, wp_bind, wp_modifyResponse,
      Option.map_some]
    refine wp_discard hclosed hexits false hfailed ?_
    rintro state' ⟨⟩
    rfl

/-- A failure is recorded and the response discarded, in this order. -/
theorem maintains_failResponse (hclosed : ResponseClosed I) (hexits : Exits c I E)
    (error : ThrownError) : Maintains (On I) E (failResponse c error) := by
  intro run hI
  cases hstate : run.responseState with
  | none =>
    rw [failResponse, wp_bind]
    simp only [recordTerminalError, wp_bind, wp_readResponse, hstate]
    exact maintains_discardResponse hclosed hexits false run hI
  | some state =>
    cases herror : state.terminalError with
    | some _ =>
      rw [failResponse, wp_bind]
      simp only [recordTerminalError, wp_bind, wp_readResponse, hstate, herror]
      exact maintains_discardResponse hclosed hexits false run hI
    | none =>
      rw [On, hstate] at hI
      exact wp_failResponse hclosed hexits hstate herror (hclosed.failed _ _ error hI herror)

/-- That the stream has completed is noted. -/
theorem maintains_completed (hclosed : ResponseClosed I) :
    Maintains (On I) E (modifyResponse fun state => { state with semanticCompleted := true }) := by
  intro run hI
  rw [wp_modifyResponse]
  cases hstate : run.responseState with
  | none =>
    rw [On, hstate] at hI
    exact hI
  | some state =>
    rw [On, hstate] at hI
    exact hclosed.completed _ _ hI

/-- The response is not discarded. -/
def Undiscarded (run : TurnRun) : Prop := ∀ state ∈ run.responseState, state.discarded = false

/-- Events are taken from a response that was not discarded, and delivered. -/
theorem wp_deliverNormalizedEvents (hclosed : ResponseClosed I) (hexits : Exits c I E)
    {run : TurnRun} (hI : On I run) (hundiscarded : Undiscarded run)
    (hdeliver : ∀ events run, On I run → Undiscarded run →
      wp (deliverEvents c events) (fun _ => On I) E run) :
    wp (deliverNormalizedEvents c) (fun _ => On I) E run := by
  rw [deliverNormalizedEvents, wp_ite]
  split
  · exact maintains_failResponse hclosed hexits _ run hI
  · rw [wp_bind, wp_ask]
    have hasked : On I { run with asked := run.asked + 1 } := hI
    rcases c.environment.takeTurnResponseEvents run.asked with error | events
    · dsimp only
      rw [wp_ite, wp_ite]
      split
      · exact hexits.wp_rethrow ‹_› hasked
      split
      · exact hexits.wp_failClosed hasked
      · exact maintains_failResponse hclosed hexits _ _ hasked
    · exact hdeliver events _ hasked hundiscarded

/-- What the state of the stream says about the response. -/
theorem maintains_followLifecycle (hclosed : ResponseClosed I) (hexits : Exits c I E)
    (response : CdpTurnResponseObservation) : Maintains (On I) E (followLifecycle c response) := by
  unfold followLifecycle
  cases response.lifecycle with
  | PENDING => exact maintains_pure ()
  | STREAMING => exact maintains_pure ()
  | COMPLETED => exact maintains_completed hclosed
  | FAILED =>
    refine maintains_readResponse.bind fun state => ?_
    cases state.bind (·.terminalError) with
    | none => exact maintains_failResponse hclosed hexits _
    | some _ => exact maintains_pure ()

/-- Following the response, where the deliveries keep the invariant or are not made. -/
theorem maintains_updateResponseDelivery (hclosed : ResponseClosed I) (hexits : Exits c I E)
    (snapshot : CdpTurnObservationSnapshot) (callerCancelled : Bool)
    (hdeliver : callerCancelled = false → ∀ events run, On I run → Undiscarded run →
      wp (deliverEvents c events) (fun _ => On I) E run) :
    Maintains (On I) E (updateResponseDelivery c snapshot callerCancelled) := by
  intro run hI
  rw [updateResponseDelivery, wp_bind, wp_readResponse]
  cases hstate : run.responseState with
  | none => exact hI
  | some state =>
    dsimp only
    rw [wp_ite]
    split
    · exact maintains_discardResponse hclosed hexits true run hI
    -- the turn was not cancelled, so what is delivered goes to a response that is not discarded
    rename_i hlive
    cases snapshot.response with
    | none =>
      exact Maintains.onlyIf (fun _ => maintains_failResponse hclosed hexits _) run hI
    | some response =>
      dsimp only
      rw [wp_bind]
      refine wp_mono ?_ (fun _ run hI => maintains_followLifecycle hclosed hexits response run hI)
        fun _ _ h => h
      rw [wp_onlyIf]
      split
      · refine wp_deliverNormalizedEvents hclosed hexits hI ?_ (hdeliver (by simpa using hlive))
        rintro state' hstate'
        rw [hstate] at hstate'
        cases hstate'
        simpa using ‹(!state.discarded) = true›
      · exact hI

/-- The deadline of the response makes it fail. -/
theorem maintains_applyResponseDeadline (hclosed : ResponseClosed I) (hexits : Exits c I E)
    (callerCancelled : Bool) (elapsed : Rat) :
    Maintains (On I) E (applyResponseDeadline c callerCancelled elapsed) := by
  refine maintains_readResponse.bind fun state => ?_
  cases state with
  | none => exact maintains_pure ()
  | some state => exact .onlyIf fun _ => maintains_failResponse hclosed hexits _

end Response

/-! ## Invariants that are not about the response -/

section Indifferent

variable (h : Indifferent I)

include h

/-- A change of the response survives where nothing is about it. -/
theorem maintains_modifyResponse (f : ResponseDeliveryState → ResponseDeliveryState) :
    Maintains (On I) E (modifyResponse f) := fun _ hI => h.state _ _ _ hI

/-- So does a terminal error. -/
theorem maintains_recordTerminalError (error : ThrownError) :
    Maintains (On I) E (recordTerminalError error) := by
  refine maintains_readResponse.bind fun state => ?_
  cases state with
  | none => exact maintains_pure ()
  | some state =>
    dsimp only
    cases state.terminalError with
    | some _ => exact maintains_pure ()
    | none =>
      exact (maintains_modifyResponse h _).bind fun _ => fun _ hI => h.delivery _ _ _ rfl hI

/-- A listener may be called where nothing is about the delivery. -/
theorem maintains_callListener (event : ResponseStreamEvent) :
    Maintains (On I) E (callListener c event) :=
  (maintains_ask _).bind fun threw =>
    Maintains.bind (x := record (.delivered event threw)) (fun _ hI => h.delivery _ _ _ rfl hI)
      fun _ => maintains_pure _

/-- What is not about the response survives the delivery of any events. -/
theorem maintains_deliverEvents (hexits : Exits c I E) (events : List NormalizedResponseStreamEvent) :
    Maintains (On I) E (deliverEvents c events) := by
  induction events with
  | nil => exact maintains_pure ()
  | cons event events ih =>
    cases event with
    | completed => exact (maintains_modifyResponse h _).bind fun _ => ih
    | textDelta text =>
      refine maintains_readResponse.bind fun state => ?_
      cases state with
      | none => exact maintains_pure ()
      | some state =>
        have hfail := maintains_failResponse (E := E) h.responseClosed hexits
          (.ofCode .responseStreamFailed)
        have hnext : Maintains (On I) E (do accumulate text; deliverEvents c events) :=
          (maintains_modifyResponse h _).bind fun _ => ih
        refine .ite (fun _ => hfail) fun _ => .ite (fun _ => hnext) fun _ => ?_
        exact (maintains_callListener h _).bind fun accepted => .ite (fun _ => hnext) fun _ => hfail

/-- And one look at the response. -/
theorem maintains_followResponse (hexits : Exits c I E) (snapshot : CdpTurnObservationSnapshot)
    (callerCancelled : Bool) :
    Maintains (On I) E (updateResponseDelivery c snapshot callerCancelled) :=
  maintains_updateResponseDelivery h.responseClosed hexits snapshot callerCancelled
    fun _ events run hI _ => maintains_deliverEvents h hexits events run hI

/-- And an announcement. -/
theorem maintains_announce (event : ResponseStreamEvent) :
    Maintains (On I) E (announce c event) :=
  (maintains_callListener h event).bind fun accepted =>
    Maintains.bind (.onlyIf fun _ => maintains_recordTerminalError h _)
      fun _ => maintains_pure accepted

/-- And the end of the delivery, where it survives what comes before the end. -/
theorem maintains_finalizeResponseDelivery {beforeCompleted : TurnM Unit}
    (hbefore : Maintains (On I) E beforeCompleted) :
    Maintains (On I) E (finalizeResponseDelivery c beforeCompleted) := by
  refine maintains_readResponse.bind fun state => ?_
  cases state with
  | none => exact maintains_pure false
  | some state =>
    refine .ite (fun _ => maintains_pure true) fun _ => .ite (fun _ => maintains_pure false)
      fun _ => .ite (fun _ => ?_) fun _ => ?_
    · exact (maintains_recordTerminalError h _).bind fun _ => maintains_pure false
    -- the deferred text, the final text and the end are announced in this order, each only after
    -- the one before was accepted
    have hdeferred : Maintains (On I) E (announceDeferred c state) :=
      .ite (fun _ => (maintains_announce h _).bind fun accepted =>
        Maintains.bind (.onlyIf fun _ => maintains_modifyResponse h _)
          fun _ => maintains_pure accepted) fun _ => maintains_pure true
    have hcompleted : Maintains (On I) E (announceCompleted c) :=
      (maintains_announce h _).bind fun accepted =>
        Maintains.bind (.onlyIf fun _ => maintains_modifyResponse h _)
          fun _ => maintains_pure accepted
    refine hdeferred.bind fun deferred => .ite (fun _ => maintains_pure false) fun _ => ?_
    refine (maintains_announce h _).bind fun final => .ite (fun _ => maintains_pure false) fun _ => ?_
    exact hbefore.bind fun _ => hcompleted

end Indifferent

/-! ## The end of a turn -/

section Ending

/-- A failed read of the route is thrown on, makes the turn fail closed, or is left for the next
poll. -/
theorem maintains_freshRouteFailed (hexits : Exits c I E) (state : PollState)
    (write : CdpWriteLifecycleState) (error : ThrownError) :
    Maintains (On I) E (freshRouteFailed c state write error) :=
  .ite (maintains_rethrow hexits) fun _ => .ite (fun _ => maintains_failClosed hexits error)
    fun _ => maintains_pure _

/-- The first route is read without a change that an invariant could see. -/
theorem maintains_readFreshRoute (hneutral : Neutral I) (hexits : Exits c I E) (state : PollState)
    (write : CdpWriteLifecycleState) : Maintains (On I) E (readFreshRoute c state write) := by
  refine (maintains_attempt hexits (maintains_readRoute hneutral _)).bind fun read => ?_
  rcases read with error | _ | locator
  · exact maintains_freshRouteFailed hexits state write error
  · exact maintains_pure _
  · rcases hown : ownsConversation c locator with error | _ | _ <;> simp only [hown]
    · exact maintains_freshRouteFailed hexits _ write error
    · exact maintains_pure _
    · exact maintains_pure _

/-- After the conversation was found, a failed read is left for the next poll. -/
theorem maintains_currentRouteFailed (hexits : Exits c I E) (state : PollState)
    (current : Option ConversationLocator) (error : ThrownError) :
    Maintains (On I) E (currentRouteFailed state current error) :=
  .ite (maintains_rethrow hexits) fun _ => maintains_pure _

/-- The route is read again without such a change. -/
theorem maintains_readCurrentRoute (hneutral : Neutral I) (hexits : Exits c I E)
    (state : PollState) (freshLocator : ConversationLocator) :
    Maintains (On I) E (readCurrentRoute c state freshLocator) := by
  refine (maintains_attempt hexits (maintains_readRoute hneutral _)).bind fun read => ?_
  rcases read with error | _ | current
  · exact maintains_currentRouteFailed hexits state none error
  · exact maintains_pure _
  · rcases hown : ownsConversation c current with error | owned <;> simp only [hown]
    · exact maintains_currentRouteFailed hexits state (some current) error
    · exact .ite (fun _ => maintains_pure _) fun _ => maintains_pure _

/-- A registration that fails makes the turn fail closed. -/
theorem maintains_registerProjectConversation (hneutral : Neutral I) (hexits : Exits c I E)
    (locator : ConversationLocator) :
    Maintains (On I) E (registerProjectConversation c locator) := by
  refine (maintains_attempt hexits (maintains_registerWithStatus hneutral locator)).bind
    fun registration => ?_
  rcases registration with error | registration
  · exact maintains_failClosed hexits error
  · exact .ite (fun _ => maintains_failClosed hexits _) fun _ => maintains_pure registration

/-- So does a reservation. -/
theorem maintains_reserveProjectConversation (hneutral : Neutral I) (hexits : Exits c I E)
    (locator : ConversationLocator) :
    Maintains (On I) E (reserveProjectConversation c locator) := by
  refine (maintains_attempt hexits (maintains_reserveProvisionalWithStatus hneutral locator)).bind
    fun registration => ?_
  rcases registration with error | registration
  · exact maintains_failClosed hexits error
  · exact .ite (fun _ => maintains_failClosed hexits _) fun _ =>
      maintains_modify fun _ hI => hI

/-- What comes before the end is a reservation, or nothing. -/
theorem maintains_beforeCompleted (hneutral : Neutral I) (hexits : Exits c I E)
    (locator : ConversationLocator) : Maintains (On I) E (beforeCompleted c locator) :=
  .onlyIf fun _ => maintains_isAborted.bind fun _ =>
    Maintains.bind (.onlyIf fun _ => maintains_failClosed hexits _) fun _ =>
      maintains_reserveProjectConversation hneutral hexits locator

/-- `E` allows to throw anything. -/
def Throws (I : TurnInvariant) (E : Interrupt ThrownError → TurnRun → Prop) : Prop :=
  ∀ run error, On I run → E (.thrown error) run

/-- Where anything may be thrown, the invariant needs nothing more. -/
theorem maintains_throw_of_throws {α : Type} (hthrows : Throws I E) (error : ThrownError) :
    Maintains (On I) E (fail error : TurnM α) := fun run hI => hthrows run error hI

/-- What survives a throw is maintained where throws are allowed. -/
theorem Throws.maintains {α : Type} (hexits : Exits c I E) (hthrows : Throws I E) {x : TurnM α}
    (hx : Maintains (On I) (fun _ => On I) x) : Maintains (On I) E x :=
  hx.mono fun i run hI => by
    cases i with
    | thrown error => exact hthrows run error hI
    | pending => exact hexits.pending run hI

/-- Neither of these returns. -/
theorem Throws.wp_throwOrFailClosed {α : Type} (hexits : Exits c I E) (hthrows : Throws I E)
    {error : ThrownError} {run : TurnRun} (hI : On I run) {Q : α → TurnRun → Prop} :
    wp (throwOrFailClosed c error) Q E run := by
  rw [throwOrFailClosed, wp_ite]
  split
  · exact hexits.wp_failClosed hI
  · exact hthrows run error hI

/-- That no conversation was created is thrown where anything may be. -/
theorem Throws.wp_throwConversationNotCreated (hexits : Exits c I E) (hthrows : Throws I E)
    {cause : Option ThrownError} {run : TurnRun} (hI : On I run)
    {Q : PollOutcome → TurnRun → Prop} : wp (throwConversationNotCreated c cause) Q E run := by
  rw [throwConversationNotCreated, wp_ite]
  split
  · exact hexits.wp_failClosed hI
  · exact hthrows run _ hI

/-- An error is thrown on where that is allowed, or makes the turn fail closed. -/
theorem maintains_throwOrFailClosed {α : Type} (hexits : Exits c I E) (hthrows : Throws I E)
    (error : ThrownError) : Maintains (On I) E (throwOrFailClosed c error : TurnM α) :=
  fun _ hI => hthrows.wp_throwOrFailClosed hexits hI

/-- That there is no conversation is thrown on. -/
theorem maintains_throwConversationNotCreated (hexits : Exits c I E) (hthrows : Throws I E)
    (cause : Option ThrownError) : Maintains (On I) E (throwConversationNotCreated c cause) :=
  fun _ hI => hthrows.wp_throwConversationNotCreated hexits hI

/-- A new conversation is registered, or refused where it is known already. -/
theorem maintains_registerFresh (hneutral : Neutral I) (hexits : Exits c I E)
    (hthrows : Throws I E) (locator : ConversationLocator) :
    Maintains (On I) E (registerFresh c locator) := by
  refine .ite (fun _ => ?_) fun _ => ?_
  · refine maintains_get.bind fun run => ?_
    rcases hknown : run.registry.hasLocator c.parseUrl locator with error | _ | _ <;>
      dsimp only
    · exact maintains_throw_of_throws hthrows error
    · exact maintains_pure none
    · exact maintains_failClosed hexits _
  · exact (hthrows.maintains hexits (maintains_registerWithStatus hneutral locator)).bind
      fun _ => maintains_pure _

/-- The pending result only packs what was reserved. -/
theorem maintains_createPendingProjectResult (threadHandle : ThreadHandle)
    (transaction : ProvisionalThreadRegistrationToken) :
    Maintains (On I) E (createPendingProjectResult c threadHandle transaction) :=
  Maintains.bind (maintains_modify fun _ hI => hI) fun _ => maintains_pure _

/-- A rollback goes to the registry. -/
theorem maintains_rollbackReservation (hneutral : Neutral I) :
    Maintains (On I) (fun _ => On I) rollbackReservation := by
  refine maintains_get.bind fun run => ?_
  cases run.projectRegistration.bind (·.transaction) with
  | none => exact maintains_pure ()
  | some transaction =>
    exact (maintains_onRegistry _).bind fun _ => maintains_record hneutral rfl

/-- The end of a turn that nobody listens to only registers. -/
theorem maintains_finishPlain (hneutral : Neutral I) (hexits : Exits c I E)
    (locator : ConversationLocator) (freshRegistration : Option ThreadRegistrationResult) :
    Maintains (On I) E (finishPlain c locator freshRegistration) := by
  refine maintains_isAborted.bind fun _ => Maintains.bind
    (.onlyIf fun _ => maintains_failClosed hexits _) fun _ => ?_
  cases freshRegistration with
  | some registration => exact maintains_pure _
  | none =>
    exact (maintains_registerProjectConversation hneutral hexits locator).bind
      fun _ => maintains_pure _

/-- What follows the delivery of a new conversation's response. -/
theorem maintains_finishStreaming (hneutral : Neutral I) (hexits : Exits c I E)
    (hthrows : Throws I E) (state : PollState) (locator : ConversationLocator)
    (freshRegistration : Option ThreadRegistrationResult)
    (hfinalize : Maintains (On I) E (finalizeResponseDelivery c (beforeCompleted c locator))) :
    Maintains (On I) E (finishStreaming c state locator freshRegistration) := by
  refine Maintains.bind (maintains_modify fun _ hI => hI) fun _ => hfinalize.bind fun finalized => ?_
  refine (maintains_readResponse.bind fun _ => maintains_pure _).bind fun error => ?_
  cases error with
  -- an error that the response came to is thrown after the reservation was taken back
  | some error =>
    exact (hthrows.maintains hexits (maintains_rollbackReservation hneutral)).bind fun _ =>
      maintains_throwOrFailClosed hexits hthrows error
  | none =>
    refine .ite (fun _ => maintains_pure _) fun _ => maintains_get.bind fun run => ?_
    cases run.projectRegistration with
    | some registration =>
      dsimp only
      cases registration.transaction with
      | none => exact maintains_failClosed hexits _
      | some transaction => exact maintains_createPendingProjectResult _ transaction
    | none =>
      cases freshRegistration with
      | some registration => exact maintains_pure _
      | none =>
        exact (maintains_registerProjectConversation hneutral hexits locator).bind
          fun _ => maintains_pure _

/-- The end of a new conversation's turn, for invariants that are not about the response. -/
theorem maintains_finishFresh (h : Indifferent I) (hneutral : Neutral I) (hexits : Exits c I E)
    (hthrows : Throws I E) (state : PollState) (locator : ConversationLocator) :
    Maintains (On I) E (finishFresh c state locator) := by
  refine maintains_readResponse.bind fun response => ?_
  cases response with
  | none =>
    exact (maintains_registerFresh hneutral hexits hthrows locator).bind fun registration =>
      maintains_finishPlain hneutral hexits locator registration
  | some response =>
    refine .ite (fun _ => maintains_pure _) fun _ =>
      (maintains_registerFresh hneutral hexits hthrows locator).bind fun registration => ?_
    cases response.terminalError with
    | some error => exact maintains_throwOrFailClosed hexits hthrows error
    | none =>
      exact maintains_finishStreaming hneutral hexits hthrows state locator registration
        (maintains_finalizeResponseDelivery h (maintains_beforeCompleted hneutral hexits locator))

/-- The end of a thread's turn, for invariants that are not about the response. -/
theorem maintains_finishThread (h : Indifferent I) (hthrows : Throws I E) (state : PollState)
    (threadHandle : ThreadHandle) : Maintains (On I) E (finishThread c state threadHandle) := by
  refine maintains_isAborted.bind fun _ =>
    .ite (fun _ => maintains_throw_of_throws hthrows _) fun _ =>
      maintains_readResponse.bind fun response => ?_
  cases response with
  | none => exact maintains_pure _
  | some response =>
    dsimp only
    cases response.terminalError with
    | some error => exact maintains_throw_of_throws hthrows error
    | none =>
      refine .ite (fun _ => maintains_pure _) fun _ =>
        (maintains_finalizeResponseDelivery h (maintains_pure ())).bind fun finalized => ?_
      refine (maintains_readResponse.bind fun _ => maintains_pure _).bind fun error => ?_
      cases error with
      | some error => exact maintains_throw_of_throws hthrows error
      | none => exact .ite (fun _ => maintains_pure _) fun _ => maintains_pure _

end Ending

/-! ## Before the commit point -/

section BeforeCommit

/-- The invariant survives a read of the observation. -/
def Observing (I : TurnInvariant) : Prop :=
  ∀ trace state snapshot, I trace state → I (trace ++ [.observed snapshot]) state

/-- An observation is read, or the turn ends as it is allowed to. -/
theorem maintains_readTurnObservation (hobserving : Observing I) (hexits : Exits c I E) :
    Maintains (On I) E (readTurnObservation c) := by
  refine (maintains_ask _).bind fun answer => ?_
  rcases answer with error | snapshot
  · exact .ite (maintains_rethrow hexits) fun _ => maintains_failClosed hexits error
  · exact Maintains.bind (x := record (.observed snapshot)) (fun _ hI => hobserving _ _ _ hI)
      fun _ => maintains_pure snapshot

/-- A write that was seen before the submission ends the turn. -/
theorem maintains_assertNoObservedPreSubmitWrite (hobserving : Observing I) (hexits : Exits c I E)
    (hthrows : Throws I E) (failClosedOnAnyWrite : Bool) :
    Maintains (On I) E (assertNoObservedPreSubmitWrite c failClosedOnAnyWrite) := by
  refine (maintains_readTurnObservation hobserving hexits).bind fun snapshot => ?_
  cases snapshot.write with
  | none => exact maintains_pure ()
  | some lifecycle =>
    exact .ite (fun _ => maintains_failClosed hexits _) fun _ =>
      maintains_throw_of_throws hthrows _

/-- The expected route is looked up in the registry. -/
theorem maintains_resolveExpectedRoute (hthrows : Throws I E) :
    Maintains (On I) E (resolveExpectedRoute c) := by
  unfold resolveExpectedRoute
  cases c.target with
  | thread threadHandle =>
    refine maintains_get.bind fun run => ?_
    cases run.registry.resolve threadHandle with
    | ok locator => exact maintains_pure _
    | error error => exact maintains_throw_of_throws hthrows error
  | fresh => exact maintains_pure _
  | project locator => exact maintains_pure _

/-- A composer that is not ready throws. -/
theorem maintains_checkComposer (composer : CdpTurnComposerState) :
    Maintains (On I) (fun _ => On I) (checkComposer c composer) := by
  have hfail : ∀ (error : ThrownError),
      Maintains (On I) (fun _ => On I) (fail error : TurnM (Option Rat)) :=
    fun error => maintains_fail fun _ hI => hI
  have hnode : Maintains (On I) (fun _ => On I) (composerNode composer) := by
    unfold composerNode
    cases composer.backendDOMNodeId with
    | none => exact hfail _
    | some _ => exact .ite (fun _ => hfail _) fun _ => maintains_pure _
  refine .ite (fun _ => hfail _) fun _ => .ite (fun _ => hfail _) fun _ => ?_
  cases c.target with
  | project _ => exact .ite (fun _ => hfail _) fun _ => hnode
  | thread _ => exact .ite (fun _ => hfail _) fun _ => hnode
  | fresh => exact maintains_pure _

/-- How a part of the turn ends before its commit point: the invariant holds, or the lease was marked
when it threw. -/
inductive EndsBefore (c : TurnCall) (I : TurnInvariant) : Interrupt ThrownError → TurnRun → Prop
  | kept {i : Interrupt ThrownError} {run : TurnRun} (hI : On I run) : EndsBefore c I i run
  | marked {error : ThrownError} {run : TurnRun} (hI : On I run) :
      EndsBefore c I (.thrown error) (run.log (.markedUncertain c.lease))

/-- Of the preflight's ends only the one that marks the lease leaves the invariant. -/
theorem maintains_prepareComposer (hneutral : Neutral I) (expectedRoute : RouteExpectation) :
    Maintains (On I) (EndsBefore c I) (prepareComposer c expectedRoute) := by
  have hcomposer : Maintains (On I) (EndsBefore c I) (do
      let composer ← withTimeout c true "Timed out revalidating the turn composer."
        (.getTurnComposerState expectedRoute) c.environment.getTurnComposerState
      checkComposer c composer) := fun run hI =>
    wp_mono ((maintains_withTimeout hneutral _ _ _ _).bind maintains_checkComposer run hI)
      (fun _ _ h => h) fun _ _ h => .kept h
  refine (maintains_ask _).bind fun answer => ?_
  rcases answer with (error | _) | error | _
  · exact maintains_fail fun _ hI => .kept hI
  · exact hcomposer
  · exact fun _ hI => .marked hI
  · exact maintains_throw fun _ hI => .kept hI

/-- Arming the observation comes before the commit point. -/
theorem maintains_armTurnObservation (hneutral : Neutral I) :
    Maintains (On I) (EndsBefore c I) (armTurnObservation c) := by
  refine (maintains_ask _).bind fun answer => ?_
  rcases answer with error | _
  · exact maintains_fail fun _ hI => .kept hI
  · exact maintains_record hneutral rfl

/-- What `rethrowPreCommit` makes of an end is one of the turn's. -/
theorem maintains_beforeCommit {α : Type} (hexits : Exits c I E) (hthrows : Throws I E)
    {x : TurnM α} (hx : Maintains (On I) (EndsBefore c I) x) :
    Maintains (On I) E (beforeCommit x) := by
  intro run hI
  rw [beforeCommit, wp_rescue]
  refine wp_mono (hx run hI) (fun _ _ h => h) fun i run hends => ?_
  cases hends with
  | marked hI => exact hexits.failClosed _ _ hI
  | kept hI =>
    cases i with
    | thrown error => exact hthrows run _ hI
    | pending => exact hexits.pending run hI

/-- The prompt is inserted by the command that fits the target. -/
theorem maintains_insertPrompt (hneutral : Neutral I) (hobserving : Observing I)
    (hexits : Exits c I E) (hthrows : Throws I E) (node : Option Rat) :
    Maintains (On I) E (insertPrompt c node) := by
  have hcommand : Maintains (On I) (fun _ => On I) (insertionCommand c node) := by
    unfold insertionCommand
    cases c.target with
    | project projectLocator =>
      exact (maintains_withTimeout hneutral _ _ _ _).bind fun _ => maintains_pure _
    | thread _ => exact (maintains_withTimeout hneutral _ _ _ _).bind fun _ => maintains_pure _
    | fresh => exact (maintains_withTimeout hneutral _ _ _ _).bind fun _ => maintains_pure _
  refine (maintains_attempt hexits hcommand).bind fun inserted => ?_
  rcases inserted with error | form
  · refine .ite (maintains_rethrow hexits) fun _ =>
      .ite (fun _ => maintains_failClosed hexits error) fun _ => ?_
    exact (maintains_assertNoObservedPreSubmitWrite hobserving hexits hthrows false).bind fun _ =>
      maintains_throw_of_throws hthrows _
  · exact maintains_pure form

/-- Up to the commit point: an invariant before the response starts, and one after it. -/
theorem wp_insertWhileIdle {J : TurnInvariant} (hexitsI : Exits c I E) (hthrowsI : Throws I E)
    (hneutral : Neutral J) (hobserving : Observing J) (hexits : Exits c J E) (hthrows : Throws J E)
    (hstart : ∀ run, On I run → wp (startResponse c) (fun _ => On J) E run) (node : Option Rat)
    {run : TurnRun} (hI : On I run) : wp (insertWhileIdle c node) (fun _ => On J) E run := by
  rw [insertWhileIdle, wp_bind]
  refine wp_mono (hthrowsI.maintains hexitsI maintains_throwIfAborted run hI)
    (fun _ run hI => ?_) fun _ _ h => h
  rw [wp_bind]
  refine wp_mono (hstart run hI) (fun _ run hJ => ?_) fun _ _ h => h
  have hsignal : Maintains (On J) E (throwIfAborted c) :=
    hthrows.maintains hexits maintains_throwIfAborted
  refine Maintains.bind (x := throwIfAborted c) hsignal (fun _ =>
    (maintains_insertPrompt hneutral hobserving hexits hthrows node).bind fun form => ?_) run hJ
  refine (maintains_assertNoObservedPreSubmitWrite hobserving hexits hthrows _).bind fun _ =>
    maintains_isAborted.bind fun aborted => Maintains.bind (.onlyIf fun _ => ?_) fun _ =>
      hsignal.bind fun _ => maintains_pure form
  exact maintains_failClosed hexits _

end BeforeCommit

/-! ## The submission -/

section Submission

/-- A command after the commit point that fails makes the turn fail closed. -/
theorem maintains_postCommitCommand (hexits : Exits c I E) {command : TurnM Unit}
    (hcommand : Maintains (On I) (fun _ => On I) command) :
    Maintains (On I) E (postCommitCommand c command) := by
  refine (maintains_attempt hexits hcommand).bind fun outcome => ?_
  rcases outcome with error | _
  · refine Maintains.bind (.ite (maintains_rethrow hexits) fun _ =>
      .ite (fun _ => maintains_failClosed hexits error) fun _ => maintains_pure ())
      fun _ => maintains_pure false
  · exact maintains_pure true

/-- What submits the turn are such commands. -/
theorem maintains_submit (hneutral : Neutral I) (hexits : Exits c I E)
    (expectedRoute : RouteExpectation) (node form : Option Rat) :
    Maintains (On I) E (submit c expectedRoute node form) := by
  have hcommand : ∀ (message : String) (command : TurnCommand) (answers : ℕ → CommandRace Unit),
      Maintains (On I) (fun _ => On I)
        (withTimeout c (passesSignal c) message command answers) :=
    fun message command answers => maintains_withTimeout hneutral _ message command answers
  unfold submit
  -- each target is submitted in its own way
  cases c.target with
  | project projectLocator =>
    refine (maintains_attempt hexits (hcommand _ _ _)).bind fun outcome => ?_
    rcases outcome with error | _
    · exact .ite (maintains_rethrow hexits) fun _ => maintains_failClosed hexits error
    · exact maintains_pure ()
  | thread _ =>
    cases expectedRoute with
    | thread locator =>
      exact (maintains_postCommitCommand hexits (hcommand _ _ _)).bind fun _ => maintains_pure ()
    | freshRoot => exact maintains_failClosed hexits _
    | projectRoot _ => exact maintains_failClosed hexits _
  | fresh =>
    refine (maintains_postCommitCommand hexits (hcommand _ _ _)).bind fun _ => .onlyIf fun _ => ?_
    exact (maintains_postCommitCommand hexits (hcommand _ _ _)).bind fun _ => maintains_pure ()

end Submission

end TurnExecutor

end Threadwire
