import Threadwire.Machine.Trace
import Threadwire.Turn.TurnRules

/-!
# The events that a turn hands to its listener

The events are text deltas, then the whole text, then the completion, and nothing after something
went wrong; a turn resolves exactly when its listener has taken the completion
(`response_event_protocol`). A turn of a project hands out nothing before two route reads have shown
one conversation of the project.
-/

namespace Threadwire

namespace TurnExecutor

open Effect

/-- A call of the listener in an action: the event, and whether the listener threw. -/
def delivery? : TurnAction → Option (ResponseStreamEvent × Bool)
  | .delivered event threw => some (event, threw)
  | _ => none

/-- The calls of the listener. -/
def deliveries (trace : List TurnAction) : List (ResponseStreamEvent × Bool) :=
  trace.filterMap delivery?

/-- The events are text deltas, `FINAL_TEXT` with their texts put together, and `COMPLETED`, or
break off somewhere in this sequence. The final text is not blank, and not longer than allowed. -/
def FollowsProtocol (maxAccumulatedTextChars : Rat) (events : List ResponseStreamEvent) : Prop :=
  ∃ (deltas : List Text) (ending : List ResponseStreamEvent),
    events = deltas.map .textDelta ++ ending ∧
      ending <+: [.finalText deltas.flatten, .completed] ∧
      (ending ≠ [] → Text.trim deltas.flatten ≠ [] ∧
        (deltas.flatten.length : Rat) ≤ maxAccumulatedTextChars)

/-- The actions that end the delivery: the listener threw, the response has come to an error, or a
poll began with the signal aborted. -/
def stopsDelivery : TurnAction → Bool
  | .delivered _ true | .failedResponse _ | .polled true => true
  | .delivered _ false | .polled false | .dispatched _ | .returned _ | .armedTurnObservation _
  | .observed _ | .committed | .checkedCancellation _ _ | .routeRead _ | .registered _ _
  | .reserved _ _ | .rolledBack _ | .markedUncertain _ | .generationChanged
  | .releasedTurnObservation _ => false

/-- Two route reads have returned one conversation of the target. -/
def RouteProved (c : TurnCall) (trace : List TurnAction) : Prop :=
  ∃ locator, ownsConversation c locator = .ok true ∧
    List.Sublist [.routeRead (some locator), .routeRead (some locator)] trace

/-- The law of the delivery: an event may be delivered when nothing has ended the delivery, and in a
turn of a project when its route is proved. -/
def MayDeliver (c : TurnCall) (past : List TurnAction) (action : TurnAction) : Prop :=
  (delivery? action).isSome = true →
    (∀ earlier ∈ past, stopsDelivery earlier = false) ∧
      (isProject c = true → RouteProved c past)

/-! ## Traces -/

variable {c : TurnCall} {trace : List TurnAction} {action : TurnAction}

/-- An action that is no call of the listener delivers nothing. -/
theorem deliveries_snoc (h : delivery? action = none) :
    deliveries (trace ++ [action]) = deliveries trace := by
  simp [deliveries, h]

/-- A call of the listener delivers its event. -/
theorem deliveries_delivered (event : ResponseStreamEvent) (threw : Bool) :
    deliveries (trace ++ [.delivered event threw]) = deliveries trace ++ [(event, threw)] := by
  simp [deliveries, delivery?]

/-- A route that is proved stays proved as more is read. -/
theorem RouteProved.mono {trace' : List TurnAction} (h : RouteProved c trace)
    (hsublist : List.Sublist trace trace') : RouteProved c trace' := by
  obtain ⟨locator, howned, hreads⟩ := h
  exact ⟨locator, howned, hreads.trans hsublist⟩

/-- So it does after any action. -/
theorem RouteProved.snoc (h : RouteProved c trace) (action : TurnAction) :
    RouteProved c (trace ++ [action]) :=
  h.mono (List.sublist_append_left trace [action])

/-- What holds of the trace of a turn at any time. -/
structure Proper (c : TurnCall) (trace : List TurnAction) : Prop where
  lawful : Trace.Lawful (MayDeliver c) trace
  protocol : FollowsProtocol c.options.maxAccumulatedTextChars ((deliveries trace).map Prod.fst)

/-- The law of the delivery is not about other actions. -/
theorem lawful_snoc_of_none (h : Trace.Lawful (MayDeliver c) trace)
    (haction : delivery? action = none) : Trace.Lawful (MayDeliver c) (trace ++ [action]) :=
  h.snoc_of_free fun past hdelivery => by simp [haction] at hdelivery

/-- A trace stays proper after an action that delivers nothing. -/
theorem Proper.snoc (h : Proper c trace) (haction : delivery? action = none) :
    Proper c (trace ++ [action]) :=
  ⟨lawful_snoc_of_none h.lawful haction, by rw [deliveries_snoc haction]; exact h.protocol⟩

/-- A proper trace in which the listener has not taken the completion. -/
def Incomplete (c : TurnCall) : TurnInvariant :=
  fun trace _ => Proper c trace ∧ (.completed, false) ∉ deliveries trace

/-- What a turn that throws leaves behind. -/
def Halts (c : TurnCall) (_ : Interrupt ThrownError) (run : TurnRun) : Prop :=
  On (Incomplete c) run

/-- And incomplete. -/
theorem Incomplete.snoc {state : Option ResponseDeliveryState} (h : Incomplete c trace state)
    (haction : delivery? action = none) : Incomplete c (trace ++ [action]) state :=
  ⟨h.1.snoc haction, by rw [deliveries_snoc haction]; exact h.2⟩

/-- No invariant looks at an action that delivers nothing and does not stop the delivery. -/
theorem delivery_of_isNeutral (h : action.isNeutral = true) :
    delivery? action = none ∧ stopsDelivery action = false := by
  cases action <;> simp_all [TurnAction.isNeutral, delivery?, stopsDelivery]

/-- A turn that throws before the completion was taken leaves a proper trace. -/
theorem exits_of_incomplete {I : TurnInvariant}
    (h : ∀ trace state, I trace state → Incomplete c trace state) : Exits c I (Halts c) where
  pending _ hI := h _ _ hI
  failClosed _ _ hI := (h _ _ hI).snoc rfl
  rethrow _ _ _ hI := (h _ _ hI).snoc rfl

/-- And it may throw anything. -/
theorem throws_of_incomplete {I : TurnInvariant}
    (h : ∀ trace state, I trace state → Incomplete c trace state) : Throws I (Halts c) :=
  fun _ _ hI => h _ _ hI

/-- Text deltas alone follow the protocol. -/
theorem followsProtocol_deltas (max : Rat) (deltas : List Text) :
    FollowsProtocol max (deltas.map .textDelta) :=
  ⟨deltas, [], (List.append_nil _).symm, List.nil_prefix, fun h => absurd rfl h⟩

/-! ## The delivery of the text -/

/-- A response that is being delivered, and has come to no error: the texts delivered so far make up
the accumulated text, or none is delivered yet where the delivery is deferred. -/
structure Accumulates (c : TurnCall) (trace : List TurnAction) (state : ResponseDeliveryState)
    (deltas : List Text) : Prop where
  faultless : ∀ action ∈ trace, stopsDelivery action = true → action = .polled true
  deferred : state.deliveryDeferred = isProject c
  none_deferred : isProject c = true → deltas = []
  text : isProject c = false → state.accumulatedText = deltas.flatten
  bounded : state.accumulatedText = [] ∨
    (state.accumulatedText.length : Rat) ≤ c.options.maxAccumulatedTextChars

/-- The invariant of the polls: only text deltas were delivered. `live` says that no poll began with
the signal aborted. -/
structure Streams (c : TurnCall) (live : Bool) (trace : List TurnAction)
    (state : ResponseDeliveryState) (deltas : List Text) : Prop where
  lawful : Trace.Lawful (MayDeliver c) trace
  unaborted : live = true → .polled true ∉ trace
  events : (deliveries trace).map Prod.fst = deltas.map .textDelta
  unfinalized : state.finalized = false
  discarded : state.terminalError ≠ none → state.discarded = true
  accumulates : state.terminalError = none → Accumulates c trace state deltas

/-- The invariant, as one of traces and response states. `reads` are route reads that were made. -/
def Streaming (c : TurnCall) (live : Bool) (reads : List TurnAction) : TurnInvariant :=
  fun trace state => List.Sublist reads trace ∧
    ∃ s deltas, state = some s ∧ Streams c live trace s deltas

variable {live : Bool} {reads : List TurnAction} {state : ResponseDeliveryState}
  {deltas : List Text}

/-- While it streams, the response is incomplete. -/
theorem Streams.incomplete (h : Streams c live trace state deltas)
    (response : Option ResponseDeliveryState) : Incomplete c trace response := by
  refine ⟨⟨h.lawful, by rw [h.events]; exact followsProtocol_deltas _ deltas⟩, fun hmem => ?_⟩
  have hfst : ResponseStreamEvent.completed ∈ deltas.map .textDelta := by
    rw [← h.events]
    exact List.mem_map_of_mem (f := Prod.fst) hmem
  simp at hfst

/-- So it is with reads of the route recorded beside it. -/
theorem Streaming.incomplete {response : Option ResponseDeliveryState}
    (h : Streaming c live reads trace response) : Incomplete c trace response := by
  obtain ⟨-, s, deltas, -, h⟩ := h
  exact h.incomplete response

/-- An action that has nothing to do with the delivery. -/
theorem Streams.snoc (h : Streams c live trace state deltas) (haction : delivery? action = none)
    (hstops : stopsDelivery action = false) :
    Streams c live (trace ++ [action]) state deltas where
  lawful := lawful_snoc_of_none h.lawful haction
  unaborted hlive hmem := by
    rcases List.mem_append.mp hmem with hmem | hmem
    · exact h.unaborted hlive hmem
    · rw [← List.mem_singleton.mp hmem] at hstops
      cases hstops
  events := by rw [deliveries_snoc haction]; exact h.events
  unfinalized := h.unfinalized
  discarded := h.discarded
  accumulates herror :=
    { h.accumulates herror with
      faultless := by
        intro a ha hstop
        rcases List.mem_append.mp ha with ha | ha
        · exact (h.accumulates herror).faultless a ha hstop
        · rw [List.mem_singleton.mp ha, hstops] at hstop
          cases hstop }

/-- The polls go on over any action that neither delivers nor stops the delivery. -/
theorem Streaming.snoc {response : Option ResponseDeliveryState}
    (h : Streaming c live reads trace response) (haction : delivery? action = none)
    (hstops : stopsDelivery action = false) :
    Streaming c live reads (trace ++ [action]) response := by
  obtain ⟨hreads, s, deltas, hstate, h⟩ := h
  exact ⟨hreads.trans (List.sublist_append_left trace [action]), s, deltas, hstate,
    h.snoc haction hstops⟩

/-- What no invariant looks at is such an action. -/
theorem streaming_neutral : Neutral (Streaming c live reads) := fun _ _ _ haction h =>
  h.snoc (delivery_of_isNeutral haction).1 (delivery_of_isNeutral haction).2

/-- So is an observation. -/
theorem streaming_observing : Observing (Streaming c live reads) := fun _ _ _ h => h.snoc rfl rfl

/-- While it streams, a turn may end in any of the ways that an invariant has to allow. -/
theorem streaming_exits : Exits c (Streaming c live reads) (Halts c) :=
  exits_of_incomplete fun _ _ h => h.incomplete

/-- It may throw anything. -/
theorem streaming_throws : Throws (Streaming c live reads) (Halts c) :=
  throws_of_incomplete fun _ _ h => h.incomplete

/-- The response has come to an error, and is discarded. -/
theorem Streams.failed (hlawful : Trace.Lawful (MayDeliver c) trace)
    (hunaborted : live = true → .polled true ∉ trace)
    (hevents : (deliveries trace).map Prod.fst = deltas.map .textDelta)
    (hunfinalized : state.finalized = false) (error : ThrownError) :
    Streams c live (trace ++ [.failedResponse error])
      { state with terminalError := some error, discarded := true } deltas where
  lawful := lawful_snoc_of_none hlawful rfl
  unaborted hlive := by simpa using hunaborted hlive
  events := by rw [deliveries_snoc rfl]; exact hevents
  unfinalized := hunfinalized
  discarded _ := rfl
  accumulates h := nomatch h

/-- The invariant of the polls survives what is done to the response, the calls of the listener
apart. -/
theorem streaming_closed : ResponseClosed (Streaming c live reads) where
  discarded := by
    rintro trace state ⟨hreads, s, deltas, hstate, h⟩
    cases hstate
    exact ⟨hreads, _, deltas, rfl, ⟨h.lawful, h.unaborted, h.events, h.unfinalized, fun _ => rfl,
      fun herror => { h.accumulates herror with }⟩⟩
  completed := by
    rintro trace state ⟨hreads, s, deltas, hstate, h⟩
    cases hstate
    exact ⟨hreads, _, deltas, rfl, ⟨h.lawful, h.unaborted, h.events, h.unfinalized, h.discarded,
      fun herror => { h.accumulates herror with }⟩⟩
  failed := by
    rintro trace state error ⟨hreads, s, deltas, hstate, h⟩ -
    cases hstate
    exact ⟨hreads.trans (List.sublist_append_left _ _), _, deltas, rfl,
      .failed h.lawful h.unaborted h.events h.unfinalized error⟩

/-- Nothing has ended the delivery where no poll began with the signal aborted. -/
theorem Accumulates.unstopped (h : Accumulates c trace state deltas)
    (hunaborted : .polled true ∉ trace) : ∀ action ∈ trace, stopsDelivery action = false := by
  intro a ha
  rw [Bool.eq_false_iff]
  intro hstops
  rw [h.faultless a ha hstops] at ha
  exact hunaborted ha

/-- The state after a text was accepted. -/
theorem Streams.accumulate (h : Streams c true trace state deltas) (herror : state.terminalError = none)
    {text : Text} (hbound : ¬ c.options.maxAccumulatedTextChars <
      (state.accumulatedText.length : Rat) + (text.length : Rat))
    (hdeferred : state.deliveryDeferred = true) :
    Streams c true trace { state with accumulatedText := state.accumulatedText ++ text } deltas := by
  have hacc := h.accumulates herror
  refine { h with accumulates := fun _ => { hacc with text := fun hproject => ?_, bounded := .inr ?_ } }
  · rw [← hacc.deferred, hdeferred] at hproject
    cases hproject
  · rw [List.length_append]
    push_cast
    exact Rat.not_lt.mp hbound

/-- The state and the trace after the listener took a text. -/
theorem Streams.deliver (h : Streams c true trace state deltas) (herror : state.terminalError = none)
    {text : Text} (hbound : ¬ c.options.maxAccumulatedTextChars <
      (state.accumulatedText.length : Rat) + (text.length : Rat))
    (hdeferred : state.deliveryDeferred = false) :
    Streams c true (trace ++ [.delivered (.textDelta text) false])
      { state with accumulatedText := state.accumulatedText ++ text } (deltas ++ [text]) := by
  have hacc := h.accumulates herror
  -- a delta that is delivered at once belongs to a turn that is not of a project
  have hproject : isProject c = false := hacc.deferred.symm.trans hdeferred
  refine
    { lawful := Trace.lawful_snoc.mpr ⟨h.lawful, fun _ =>
        ⟨hacc.unstopped (h.unaborted rfl), fun hp => absurd hp (by simp [hproject])⟩⟩
      unaborted := fun _ => by simpa using h.unaborted rfl
      events := by rw [deliveries_delivered, List.map_append, h.events, List.map_append]; rfl
      unfinalized := h.unfinalized
      discarded := h.discarded
      accumulates := fun _ =>
        { faultless := fun a ha hstop => ?_
          deferred := hacc.deferred
          none_deferred := fun hp => absurd hp (by simp [hproject])
          text := fun _ => by simp [hacc.text hproject]
          bounded := .inr ?_ } }
  · rcases List.mem_append.mp ha with ha | ha
    · exact hacc.faultless a ha hstop
    · rw [List.mem_singleton.mp ha] at hstop
      cases hstop
  · rw [List.length_append]
    push_cast
    exact Rat.not_lt.mp hbound

/-- The response after the listener threw at a text. -/
theorem Streams.refuse (h : Streams c true trace state deltas) (herror : state.terminalError = none)
    (hdeferred : state.deliveryDeferred = false) (text : Text) (error : ThrownError) :
    Streams c true (trace ++ [.delivered (.textDelta text) true] ++ [.failedResponse error])
      { state with terminalError := some error, discarded := true } (deltas ++ [text]) := by
  have hacc := h.accumulates herror
  have hproject : isProject c = false := hacc.deferred.symm.trans hdeferred
  refine .failed ?_ (fun _ => by simpa using h.unaborted rfl) ?_ h.unfinalized error
  · exact Trace.lawful_snoc.mpr ⟨h.lawful, fun _ =>
      ⟨hacc.unstopped (h.unaborted rfl), fun hp => absurd hp (by simp [hproject])⟩⟩
  · rw [deliveries_delivered, List.map_append, h.events, List.map_append]
    rfl

/-- Events are delivered while the response streams, and each of them keeps the invariant. -/
theorem wp_deliverEvents (events : List NormalizedResponseStreamEvent) {run : TurnRun}
    (h : On (Streaming c true reads) run) (hundiscarded : Undiscarded run) :
    wp (deliverEvents c events) (fun _ => On (Streaming c true reads)) (Halts c) run := by
  -- the induction is on the events; the response that they find may have changed in between
  induction events generalizing run with
  | nil => exact h
  | cons event events ih =>
    obtain ⟨hreads, s, deltas, hstate, hstreams⟩ := h
    -- a response that was not discarded has come to no error
    have hdiscarded : s.discarded = false := hundiscarded s hstate
    have herror : s.terminalError = none := by
      by_contra hne
      simp [hstreams.discarded hne] at hdiscarded
    have hnext : ∀ (trace : List TurnAction) (s' : ResponseDeliveryState) (deltas : List Text)
        (asked : ℕ), List.Sublist reads trace → Streams c true trace s' deltas →
        s'.discarded = false →
        wp (deliverEvents c events) (fun _ => On (Streaming c true reads)) (Halts c)
          { run with asked, trace, responseState := some s' } := by
      intro trace s' deltas asked hreads' hstreams' hdiscarded'
      refine ih ⟨hreads', s', deltas, rfl, hstreams'⟩ ?_
      rintro _ ⟨⟩
      exact hdiscarded'
    cases event with
    | completed =>
      rw [deliverEvents, wp_bind, wp_modifyResponse, hstate]
      have hclosed := streaming_closed.completed _ _ ⟨hreads, s, deltas, rfl, hstreams⟩
      refine ih hclosed ?_
      rintro _ ⟨⟩
      exact hdiscarded
    | textDelta text =>
      rw [deliverEvents, wp_bind, wp_readResponse, hstate]
      dsimp only
      rw [wp_ite]
      split
      · exact maintains_failResponse streaming_closed streaming_exits _ run
          ⟨hreads, s, deltas, hstate, hstreams⟩
      rename_i hbound
      rw [wp_ite]
      split
      · rename_i hdeferred
        rw [wp_bind, TurnExecutor.accumulate, wp_modifyResponse, hstate]
        exact hnext _ _ deltas run.asked hreads (hstreams.accumulate herror hbound hdeferred) hdiscarded
      · rename_i hdeferred
        have hdeferred : s.deliveryDeferred = false := by simpa using hdeferred
        rw [wp_bind, callListener, wp_bind, wp_ask, wp_bind, wp_record]
        cases c.environment.listenerThrows run.asked with
        | false =>
          simp only [Bool.not_false, wp_pure, if_true]
          rw [wp_bind, TurnExecutor.accumulate, wp_modifyResponse]
          simp only [TurnRun.log, hstate, Option.map_some]
          exact hnext _ _ _ _ (hreads.trans (List.sublist_append_left _ _))
            (hstreams.deliver herror hbound hdeferred) hdiscarded
        | true =>
          simp only [Bool.not_true, wp_pure, Bool.false_eq_true, if_false]
          exact wp_failResponse streaming_closed streaming_exits hstate herror
            ⟨hreads.trans ((List.sublist_append_left _ _).trans (List.sublist_append_left _ _)), _, _,
              rfl, hstreams.refuse herror hdeferred text _⟩

/-! ## The end of the response -/

/-- A response whose end is being delivered: nothing has gone wrong, and these are the events that
the listener has taken. -/
structure Delivering (c : TurnCall) (events : List ResponseStreamEvent) (trace : List TurnAction) :
    Prop where
  lawful : Trace.Lawful (MayDeliver c) trace
  unstopped : ∀ action ∈ trace, stopsDelivery action = false
  proved : isProject c = true → RouteProved c trace
  events : (deliveries trace).map Prod.fst = events

/-- This, with a response that has come to no error. -/
def Ending (c : TurnCall) (events : List ResponseStreamEvent) : TurnInvariant :=
  fun trace state => Delivering c events trace ∧ ∃ s, state = some s ∧ s.terminalError = none

/-- The response has come to an error, and its completion was not taken. -/
def Broken (c : TurnCall) : TurnInvariant :=
  fun trace state => Incomplete c trace state ∧
    ∃ s error, state = some s ∧ s.terminalError = some error

/-- The listener has taken the completion. -/
def Completed (c : TurnCall) (trace : List TurnAction) : Prop :=
  Proper c trace ∧ (.completed, false) ∈ deliveries trace

variable {events : List ResponseStreamEvent} {event : ResponseStreamEvent}

/-- A response that streamed and came to no error can be brought to its end. -/
theorem Streams.delivering (h : Streams c true trace state deltas)
    (herror : state.terminalError = none) (hproved : isProject c = true → RouteProved c trace) :
    Delivering c (deltas.map .textDelta) trace where
  lawful := h.lawful
  unstopped := (h.accumulates herror).unstopped (h.unaborted rfl)
  proved := hproved
  events := h.events

/-- It goes on over any action that neither delivers nor stops the delivery. -/
theorem Delivering.snoc (h : Delivering c events trace) (haction : delivery? action = none)
    (hstops : stopsDelivery action = false) : Delivering c events (trace ++ [action]) where
  lawful := lawful_snoc_of_none h.lawful haction
  unstopped a ha := by
    rcases List.mem_append.mp ha with ha | ha
    · exact h.unstopped a ha
    · rw [List.mem_singleton.mp ha]
      exact hstops
  proved hproject := (h.proved hproject).snoc action
  events := by rw [deliveries_snoc haction]; exact h.events

/-- The next event may be delivered. -/
theorem Delivering.lawful_delivered (h : Delivering c events trace) (event : ResponseStreamEvent)
    (threw : Bool) : Trace.Lawful (MayDeliver c) (trace ++ [.delivered event threw]) :=
  Trace.lawful_snoc.mpr ⟨h.lawful, fun _ => ⟨h.unstopped, h.proved⟩⟩

/-- And is the next one that the listener has heard. -/
theorem Delivering.events_delivered (h : Delivering c events trace) (event : ResponseStreamEvent)
    (threw : Bool) :
    (deliveries (trace ++ [.delivered event threw])).map Prod.fst = events ++ [event] := by
  rw [deliveries_delivered, List.map_append, h.events]
  rfl

/-- The listener took the event. -/
theorem Delivering.accepted (h : Delivering c events trace) (event : ResponseStreamEvent) :
    Delivering c (events ++ [event]) (trace ++ [.delivered event false]) where
  lawful := h.lawful_delivered event false
  unstopped a ha := by
    rcases List.mem_append.mp ha with ha | ha
    · exact h.unstopped a ha
    · rw [List.mem_singleton.mp ha]
      rfl
  proved hproject := (h.proved hproject).snoc _
  events := h.events_delivered event false

/-- A response that is delivered in the order of the protocol makes a proper trace. -/
theorem Delivering.proper (h : Delivering c events trace)
    (hprotocol : FollowsProtocol c.options.maxAccumulatedTextChars events) : Proper c trace :=
  ⟨h.lawful, by rw [h.events]; exact hprotocol⟩

/-- No completion among the events, none among the deliveries. -/
theorem Delivering.completed_not_mem (h : Delivering c events trace)
    (hcompleted : .completed ∉ events) (threw : Bool) :
    (.completed, threw) ∉ deliveries trace := by
  intro hmem
  rw [← h.events] at hcompleted
  exact hcompleted (List.mem_map_of_mem (f := Prod.fst) hmem)

/-- The listener threw at the event. -/
theorem Delivering.refused (h : Delivering c events trace) (hcompleted : .completed ∉ events)
    (hprotocol : FollowsProtocol c.options.maxAccumulatedTextChars (events ++ [event]))
    (response : Option ResponseDeliveryState) :
    Incomplete c (trace ++ [.delivered event true]) response := by
  refine ⟨⟨h.lawful_delivered event true, ?_⟩, ?_⟩
  · rw [h.events_delivered event true]
    exact hprotocol
  · rw [deliveries_delivered]
    simpa using h.completed_not_mem hcompleted false

/-- An event of the end of the response: it is taken, or the response is broken. -/
theorem wp_announce {run : TurnRun} (h : On (Ending c events) run) (hcompleted : .completed ∉ events)
    (hprotocol : FollowsProtocol c.options.maxAccumulatedTextChars (events ++ [event])) :
    wp (announce c event)
      (fun accepted run' =>
        if accepted then
          run' = { run with
            asked := run.asked + 1
            trace := run.trace ++ [.delivered event false] }
        else On (Broken c) run')
      (Halts c) run := by
  obtain ⟨hdelivering, s, hstate, herror⟩ := h
  rw [announce, wp_bind, callListener, wp_bind, wp_ask, wp_bind, wp_record, wp_pure, wp_bind,
    wp_onlyIf]
  cases c.environment.listenerThrows run.asked with
  | false => rfl
  | true =>
    simp only [recordTerminalError, wp_bind, wp_readResponse, TurnRun.log, hstate, herror,
      wp_modifyResponse, wp_record, Option.map_some]
    exact ⟨(hdelivering.refused hcompleted hprotocol _).snoc rfl, _, _, rfl, rfl⟩

/-- What the final text has to be. -/
structure FinalText (c : TurnCall) (text : Text) (deltas : List Text) : Prop where
  exact : text = deltas.flatten
  nonblank : Text.trim text ≠ []
  bounded : (text.length : Rat) ≤ c.options.maxAccumulatedTextChars

/-- The final text, and maybe the end, complete the protocol. -/
theorem FinalText.followsProtocol {text : Text} (h : FinalText c text deltas)
    {ending : List ResponseStreamEvent} (hending : ending <+: [.finalText text, .completed]) :
    FollowsProtocol c.options.maxAccumulatedTextChars (deltas.map .textDelta ++ ending) := by
  obtain ⟨rfl, hnonblank, hbounded⟩ := h
  exact ⟨deltas, ending, rfl, hending, fun _ => ⟨hnonblank, hbounded⟩⟩

/-- The text of a response that is not blank makes a final text: with the deltas that were
delivered, or by itself where the delivery was deferred. -/
theorem Accumulates.finalText (h : Accumulates c trace state deltas)
    (hblank : ¬ (Text.trim state.accumulatedText).length = 0) :
    FinalText c state.accumulatedText
      (if state.deliveryDeferred then [state.accumulatedText] else deltas) := by
  have hnonblank : Text.trim state.accumulatedText ≠ [] := fun hempty => hblank (by simp [hempty])
  refine ⟨?_, hnonblank, ?_⟩
  · cases hdeferred : state.deliveryDeferred with
    | true => simp
    | false => exact h.text (h.deferred.symm.trans hdeferred)
  · rcases h.bounded with hempty | hbounded
    · exact absurd (by rw [hempty]; rfl) hnonblank
    · exact hbounded

/-- After the deferred text, if there is one. -/
theorem wp_announceDeferred {run : TurnRun} (hstate : run.responseState = some state)
    (hstreams : Streams c true run.trace state deltas) (herror : state.terminalError = none)
    (hproved : isProject c = true → RouteProved c run.trace) :
    wp (announceDeferred c state)
      (fun accepted run' =>
        if accepted then
          On (Ending c
            ((if state.deliveryDeferred then [state.accumulatedText] else deltas).map .textDelta)) run' ∧
            run'.projectRegistration = run.projectRegistration
        else On (Broken c) run')
      (Halts c) run := by
  have hending : On (Ending c (deltas.map .textDelta)) run :=
    ⟨hstreams.delivering herror hproved, state, hstate, herror⟩
  rw [announceDeferred, wp_ite]
  cases hdeferred : state.deliveryDeferred with
  | false => exact ⟨hending, rfl⟩
  | true =>
    -- a delivery that is deferred has delivered nothing yet
    have hnone : deltas = [] :=
      (hstreams.accumulates herror).none_deferred
        ((hstreams.accumulates herror).deferred.symm.trans hdeferred)
    subst hnone
    rw [if_pos rfl, wp_bind]
    refine wp_mono (wp_announce hending (by simp) (followsProtocol_deltas _ [state.accumulatedText]))
      (fun accepted run' hrun' => ?_) fun _ _ h => h
    cases accepted with
    | false => exact hrun'
    | true =>
      obtain rfl : run' = _ := hrun'
      rw [wp_bind, wp_onlyIf, if_pos rfl, wp_modifyResponse]
      refine ⟨⟨hending.1.accepted _, { state with deliveryDeferred := false }, ?_, herror⟩, rfl⟩
      simp [hstate]

/-- What a response that was finalized leaves behind. -/
structure Finalized (c : TurnCall) (R : Option ProvisionalThreadRegistrationResult → Prop)
    (run : TurnRun) : Prop where
  completed : Completed c run.trace
  faultless : ∃ s, run.responseState = some s ∧ s.terminalError = none
  registration : R run.projectRegistration

/-- The completion, after the final text. -/
theorem wp_announceCompleted {R : Option ProvisionalThreadRegistrationResult → Prop} {text : Text}
    (hfinal : FinalText c text deltas) {run : TurnRun}
    (hrun : On (Ending c (deltas.map .textDelta ++ [.finalText text])) run)
    (hregistration : R run.projectRegistration) :
    wp (announceCompleted c)
      (fun accepted run' => if accepted then Finalized c R run' else On (Broken c) run')
      (Halts c) run := by
  have hprotocol : FollowsProtocol c.options.maxAccumulatedTextChars
      (deltas.map .textDelta ++ [.finalText text] ++ [.completed]) := by
    rw [List.append_assoc]
    exact hfinal.followsProtocol (List.prefix_refl _)
  rw [announceCompleted, wp_bind]
  refine wp_mono (wp_announce hrun (by simp) hprotocol) (fun accepted run' hrun' => ?_) fun _ _ h => h
  cases accepted with
  | false => exact hrun'
  | true =>
    obtain rfl : run' = _ := hrun'
    obtain ⟨hdelivering, s, hstate, herror⟩ := hrun
    rw [wp_bind, wp_onlyIf, if_pos rfl, wp_modifyResponse]
    refine ⟨⟨(hdelivering.accepted .completed).proper hprotocol, ?_⟩,
      ⟨{ s with finalized := true }, ?_, herror⟩, hregistration⟩
    · simp [deliveries_delivered]
    · simp [hstate]

/-- The end of a completed response: it is finalized, or it is broken. `R` is what is done before
the completion. -/
theorem wp_finalizeResponseDelivery {R : Option ProvisionalThreadRegistrationResult → Prop}
    {before : TurnM Unit} {run : TurnRun} (hstate : run.responseState = some state)
    (hstreams : Streams c true run.trace state deltas) (herror : state.terminalError = none)
    (hcompleted : state.semanticCompleted = true)
    (hproved : isProject c = true → RouteProved c run.trace)
    (hbefore : ∀ events run', On (Ending c events) run' → Proper c run'.trace →
      .completed ∉ events → run'.projectRegistration = run.projectRegistration →
      wp before (fun _ run' => On (Ending c events) run' ∧ R run'.projectRegistration) (Halts c)
        run') :
    wp (finalizeResponseDelivery c before)
      (fun finalized run' => if finalized then Finalized c R run' else On (Broken c) run')
      (Halts c) run := by
  rw [finalizeResponseDelivery, wp_bind, wp_readResponse, hstate]
  dsimp only
  rw [if_neg (by simp [hstreams.unfinalized]), if_neg (by simp [hcompleted, herror]), wp_ite]
  split
  · simp only [recordTerminalError, wp_bind, wp_readResponse, hstate, herror, wp_modifyResponse,
      wp_record, Option.map_some]
    exact ⟨(hstreams.incomplete _).snoc rfl, _, _, rfl, rfl⟩
  rename_i hblank
  -- the deferred text goes out first, so the deltas that count from here on are those heard by now
  have hfinal := (hstreams.accumulates herror).finalText hblank
  generalize hdeltas : (if state.deliveryDeferred then [state.accumulatedText] else deltas) = deltas'
    at hfinal
  rw [wp_bind]
  refine wp_mono (wp_announceDeferred hstate hstreams herror hproved) (fun accepted run' hrun' => ?_)
    fun _ _ h => h
  rw [hdeltas] at hrun'
  cases accepted with
  | false => exact hrun'
  | true =>
    obtain ⟨hending, hregistration⟩ := hrun'
    rw [if_neg (by simp), wp_bind]
    refine wp_mono (wp_announce hending (by simp)
      (hfinal.followsProtocol (List.prefix_append [_] [_]))) (fun accepted run'' hrun'' => ?_)
      fun _ _ h => h
    -- each announcement that was not accepted leaves the response broken
    cases accepted with
    | false => exact hrun''
    | true =>
      obtain rfl : run'' = _ := hrun''
      rw [if_neg (by simp), wp_bind]
      have hdelivering := hending.1.accepted (.finalText state.accumulatedText)
      refine wp_mono (hbefore _ _ ⟨hdelivering, hending.2⟩
        (hdelivering.proper (hfinal.followsProtocol (List.prefix_append [_] [_]))) (by simp)
        hregistration) (fun _ run hrun => ?_) fun _ _ h => h
      exact wp_announceCompleted hfinal hrun.1 hrun.2

/-! ## The end of a turn -/

/-- What `beforeCompleted` leaves: the reservation of a project's conversation, with a
transaction, and nothing in other turns. -/
def Reserved (c : TurnCall) (registration : Option ProvisionalThreadRegistrationResult) : Prop :=
  if isProject c then ∃ threadHandle transaction, registration = some ⟨threadHandle, some transaction⟩
  else registration = none

/-- The end goes on over any action that neither delivers nor stops the delivery. -/
theorem Ending.snoc {response : Option ResponseDeliveryState} (h : Ending c events trace response)
    (haction : delivery? action = none) (hstops : stopsDelivery action = false) :
    Ending c events (trace ++ [action]) response :=
  ⟨h.1.snoc haction hstops, h.2⟩

/-- The invariant while the conversation is reserved. -/
def Reserving (c : TurnCall) (events : List ResponseStreamEvent) : TurnInvariant :=
  fun trace state => Ending c events trace state ∧ Proper c trace

/-- What no invariant looks at does not disturb the reservation. -/
theorem reserving_neutral : Neutral (Reserving c events) := fun _ _ _ haction h =>
  ⟨h.1.snoc (delivery_of_isNeutral haction).1 (delivery_of_isNeutral haction).2,
    h.2.snoc (delivery_of_isNeutral haction).1⟩

/-- A turn may end while it reserves, as its completion was not taken. -/
theorem reserving_exits (hcompleted : .completed ∉ events) : Exits c (Reserving c events) (Halts c) :=
  exits_of_incomplete fun _ _ h => ⟨h.2, h.1.1.completed_not_mem hcompleted false⟩

/-- What comes before the end: in a turn of a project, the conversation is reserved. -/
theorem wp_beforeCompleted (locator : ConversationLocator) {run : TurnRun}
    (hrun : On (Reserving c events) run) (hcompleted : .completed ∉ events)
    (hregistration : run.projectRegistration = none) :
    wp (beforeCompleted c locator)
      (fun _ run' => On (Ending c events) run' ∧ Reserved c run'.projectRegistration) (Halts c)
      run := by
  have hexits := reserving_exits (c := c) hcompleted
  rw [beforeCompleted, wp_onlyIf]
  split
  · rename_i hproject
    rw [wp_bind, wp_isAborted, wp_bind, wp_onlyIf]
    split
    · exact hexits.wp_failClosed hrun
    rw [reserveProjectConversation, wp_bind]
    refine wp_mono (maintains_attempt hexits (maintains_reserveProvisionalWithStatus
      reserving_neutral locator) run hrun) (fun reserved run hrun => ?_) fun _ _ h => h
    -- a reservation without a transaction is one that was there already
    rcases reserved with error | ⟨threadHandle, _ | transaction⟩
    · exact hexits.wp_failClosed hrun
    · exact hexits.wp_failClosed hrun
    · refine ⟨hrun.1, ?_⟩
      rw [Reserved, if_pos hproject]
      exact ⟨threadHandle, transaction, rfl⟩
  · rename_i hproject
    refine ⟨hrun.1, ?_⟩
    rw [Reserved, if_neg hproject]
    exact hregistration

/-- The route read that the known locator of the conversation comes from. -/
def PollState.routeReads (state : PollState) : List TurnAction :=
  state.freshLocator.toList.map fun locator => .routeRead (some locator)

/-- What a poll comes to: the invariant for the next one, or the result, with the completion
taken. -/
def Ended (c : TurnCall) : PollOutcome → TurnRun → Prop
  | .again state, run => On (Streaming c (!state.callerCancelled) state.routeReads) run
  | .done _, run => Completed c run.trace

/-- What no invariant looks at does not mend a broken response. -/
theorem broken_neutral : Neutral (Broken c) := fun _ _ _ haction h =>
  ⟨h.1.snoc (delivery_of_isNeutral haction).1, h.2⟩

/-- A broken turn may end in any of the ways that an invariant has to allow. -/
theorem broken_exits : Exits c (Broken c) (Halts c) := exits_of_incomplete fun _ _ h => h.1

/-- And it may throw anything. -/
theorem broken_throws : Throws (Broken c) (Halts c) := throws_of_incomplete fun _ _ h => h.1

/-- Reading the error of a broken response. -/
theorem wp_responseError_broken {run : TurnRun} (hrun : On (Broken c) run)
    {Q : Option ThrownError → TurnRun → Prop} (hQ : ∀ error, Q (some error) run) :
    wp responseError Q (Halts c) run := by
  obtain ⟨-, s, error, hstate, herror⟩ := hrun
  rw [responseError, wp_bind, wp_readResponse, hstate, wp_pure, Option.bind_some, herror]
  exact hQ error

/-- The end of a streaming turn with a new conversation: either its completion was taken, or it
throws. -/
theorem wp_finishStreaming (pollState : PollState) (locator : ConversationLocator)
    (freshRegistration : Option ThreadRegistrationResult) {run : TurnRun}
    (hstate : run.responseState = some state) (hstreams : Streams c true run.trace state deltas)
    (herror : state.terminalError = none) (hcompleted : state.semanticCompleted = true)
    (hproved : isProject c = true → RouteProved c run.trace)
    (hregistration : isProject c = false → freshRegistration ≠ none) :
    wp (finishStreaming c pollState locator freshRegistration) (Ended c) (Halts c) run := by
  rw [finishStreaming, wp_bind, wp_modify, wp_bind]
  refine wp_mono (wp_finalizeResponseDelivery (R := Reserved c) hstate hstreams herror hcompleted
    hproved fun events run' hending hproper hevents hnone =>
      wp_beforeCompleted locator ⟨hending, hproper⟩ hevents hnone)
    (fun finalized run hrun => ?_) fun _ _ h => h
  rw [wp_bind]
  cases finalized with
  -- not finalized, so the response came to an error; the reservation is taken back and the error
  -- thrown
  | false =>
    refine wp_responseError_broken hrun fun error => ?_
    rw [wp_bind]
    exact wp_mono (broken_throws.maintains broken_exits
      (maintains_rollbackReservation broken_neutral) run hrun)
      (fun _ run hrun => broken_throws.wp_throwOrFailClosed broken_exits hrun) fun _ _ h => h
  | true =>
    obtain ⟨hdone, ⟨s, hstate, herror⟩, hreserved⟩ := hrun
    rw [responseError, wp_bind, wp_readResponse, hstate, wp_pure, Option.bind_some, herror]
    simp only [Bool.not_true, Bool.false_eq_true, if_false, wp_bind, wp_get]
    rw [Reserved] at hreserved
    split at hreserved
    · obtain ⟨threadHandle, transaction, hreserved⟩ := hreserved
      rw [hreserved]
      exact hdone
    · rename_i hproject
      cases freshRegistration with
      | none => exact absurd rfl (hregistration (by simpa using hproject))
      | some registration =>
        rw [hreserved]
        exact hdone

/-- The end of a turn with a new conversation, whether or not the response is complete yet. -/
theorem wp_finishFresh (pollState : PollState) (locator : ConversationLocator) {run : TurnRun}
    (hrun : On (Streaming c true pollState.routeReads) run) (hlive : pollState.callerCancelled = false)
    (hproved : isProject c = true → RouteProved c run.trace ∨ c.parseUrl locator = none) :
    wp (finishFresh c pollState locator) (Ended c) (Halts c) run := by
  obtain ⟨_, state, deltas, hstate, hstreams⟩ := id hrun
  rw [finishFresh, wp_bind, wp_readResponse, hstate]
  dsimp only
  rw [wp_ite]
  split
  · show On (Streaming c (!pollState.callerCancelled) pollState.routeReads) run
    rw [hlive]
    exact hrun
  rename_i hready
  rw [wp_bind]
  -- what follows the registration, which leaves the response and the listener alone
  have hrest : ∀ (freshRegistration : Option ThreadRegistrationResult) (run' : TurnRun),
      run'.responseState = some state → Streams c true run'.trace state deltas →
      (isProject c = true → RouteProved c run'.trace) →
      (isProject c = false → freshRegistration ≠ none) →
      (∀ error, state.terminalError = some error →
        wp (throwOrFailClosed c error) (Ended c) (Halts c) run') ∧
      (state.terminalError = none →
        wp (finishStreaming c pollState locator freshRegistration) (Ended c) (Halts c) run') := by
    intro freshRegistration run' hstate' hstreams' hproved' hregistration
    refine ⟨fun error herror => ?_, fun herror => ?_⟩
    · exact streaming_throws.wp_throwOrFailClosed streaming_exits
        (I := Streaming c true []) ⟨List.nil_sublist _, state, deltas, hstate', hstreams'⟩
    · exact wp_finishStreaming pollState locator freshRegistration hstate' hstreams' herror
        (by simpa [herror] using hready) hproved' hregistration
  rw [registerFresh, wp_ite]
  split
  · rename_i hproject
    rw [wp_bind, wp_get]
    cases hknown : run.registry.hasLocator c.parseUrl locator with
    | error error => exact streaming_throws run error hrun
    | ok known =>
      cases known with
      | true => exact streaming_exits.wp_failClosed hrun
      | false =>
        -- a locator that is no URL is not looked up
        have hparsed : c.parseUrl locator ≠ none := by
          intro hnone
          rw [ThreadRegistry.hasLocator, createConversationLocator, hnone] at hknown
          cases hknown
        obtain ⟨hthrows, hfinishes⟩ := hrest none run hstate hstreams
          (fun _ => (hproved hproject).resolve_right hparsed)
          fun h => absurd hproject (by simp [h])
        cases herror : state.terminalError with
        | some error => exact hthrows error herror
        | none => exact hfinishes herror
  · rename_i hproject
    rw [wp_bind]
    let I : TurnInvariant := fun trace response =>
      response = some state ∧ Streams c true trace state deltas
    have hneutral : Neutral I := fun _ _ _ haction h =>
      ⟨h.1, h.2.snoc (delivery_of_isNeutral haction).1 (delivery_of_isNeutral haction).2⟩
    have hregister := maintains_registerWithStatus (c := c) hneutral locator run ⟨hstate, hstreams⟩
    refine wp_mono hregister (fun registration run hrun => ?_) fun _ run h =>
      h.2.incomplete run.responseState
    obtain ⟨hthrows, hfinishes⟩ :=
      hrest (some registration) run hrun.1 hrun.2 (fun h => absurd h hproject) (by simp)
    cases herror : state.terminalError with
    | some error => exact hthrows error herror
    | none => exact hfinishes herror

/-- The end of a streaming turn in a known conversation. -/
theorem wp_finishThread (pollState : PollState) (threadHandle : ThreadHandle) {run : TurnRun}
    (hrun : On (Streaming c (!pollState.callerCancelled) pollState.routeReads) run)
    (hproject : isProject c = false) :
    wp (finishThread c pollState threadHandle) (Ended c) (Halts c) run := by
  rw [finishThread, wp_bind, wp_isAborted, wp_ite]
  split
  · exact streaming_throws run (operationAborted c) hrun
  rename_i hcancelled
  have hlive : pollState.callerCancelled = false := by
    cases h : pollState.callerCancelled <;> simp [h] at hcancelled ⊢
  have hagain : Ended c (.again pollState) run := hrun
  rw [hlive] at hrun
  have ⟨_, state, deltas, hstate, hstreams⟩ := hrun
  rw [wp_bind, wp_readResponse, hstate]
  dsimp only
  cases herror : state.terminalError with
  | some error => exact streaming_throws run error hrun
  | none =>
    dsimp only
    rw [wp_ite]
    split
    · -- the stream is not complete yet, so the next poll will see
      exact hagain
    rename_i hcompleted
    rw [wp_bind]
    refine wp_mono (wp_finalizeResponseDelivery (R := fun _ => True) hstate hstreams herror
      (by simpa using hcompleted) (fun h => absurd h (by simp [hproject]))
      fun events run' hending _ _ _ => ⟨hending, trivial⟩) (fun finalized run hrun => ?_)
      fun _ _ h => h
    rw [wp_bind]
    cases finalized with
    | false => exact wp_responseError_broken hrun fun error => broken_throws run error hrun
    | true =>
      obtain ⟨hdone, ⟨s, hstate, herror⟩, -⟩ := hrun
      rw [responseError, wp_bind, wp_readResponse, hstate, wp_pure, Option.bind_some, herror]
      exact hdone

/-! ## A poll -/

/-- A locator by which the turn may end: in a turn of a project, one that two route reads have
returned and that is of the project, or none that the registry takes. -/
def Located (c : TurnCall) (locator : ConversationLocator) (trace : List TurnAction) : Prop :=
  isProject c = true → RouteProved c trace ∨ c.parseUrl locator = none

/-- Fewer reads are recorded as well. -/
theorem Streaming.of_sublist {reads' : List TurnAction} {response : Option ResponseDeliveryState}
    (h : Streaming c live reads trace response) (hreads : List.Sublist reads' reads) :
    Streaming c live reads' trace response :=
  ⟨hreads.trans h.1, h.2⟩

/-- A route read leaves itself in the trace. -/
theorem wp_readRoute (message : String) {run : TurnRun}
    (hrun : On (Streaming c live reads) run) :
    wp (readRoute c message)
      (fun locator => On (Streaming c live (reads ++ [.routeRead locator])))
      (fun _ => On (Streaming c live reads)) run := by
  rw [readRoute, wp_bind]
  refine wp_mono (maintains_withTimeout streaming_neutral _ _ _ _ run hrun)
    (fun locator run hrun => ?_) fun _ _ h => h
  rw [wp_bind, wp_record, wp_pure]
  exact ⟨List.Sublist.append hrun.1 (List.Sublist.refl _),
    (streaming_neutral _ _ (.routeRead locator) rfl hrun).2⟩

/-- An attempt at a route read. -/
theorem wp_attemptRoute (message : String) {run : TurnRun}
    (hrun : On (Streaming c live reads) run)
    {Q : Except ThrownError (Option ConversationLocator) → TurnRun → Prop}
    (hread : ∀ locator run, On (Streaming c live (reads ++ [.routeRead locator])) run →
      Q (.ok locator) run)
    (herror : ∀ error run, On (Streaming c live reads) run → Q (.error error) run) :
    wp (attempt (readRoute c message)) Q (Halts c) run := by
  rw [wp_attempt]
  refine wp_mono (wp_readRoute message hrun) hread fun i run h => ?_
  cases i with
  | thrown error => exact herror error run h
  | pending => exact streaming_exits.pending run h

/-- The state after the first route read of a poll keeps what was said by the caller, and the
locator it has was read. -/
theorem wp_readFreshRoute (pollState : PollState) (write : CdpWriteLifecycleState) {run : TurnRun}
    (hrun : On (Streaming c live []) run) (hnone : pollState.freshLocator = none) :
    wp (readFreshRoute c pollState write)
      (fun state' run => state'.callerCancelled = pollState.callerCancelled ∧
        On (Streaming c live state'.routeReads) run) (Halts c) run := by
  have hfailed : ∀ (state' : PollState) (error : ThrownError) (run : TurnRun),
      state'.callerCancelled = pollState.callerCancelled →
      On (Streaming c live state'.routeReads) run →
      wp (freshRouteFailed c state' write error)
        (fun state'' run => state''.callerCancelled = pollState.callerCancelled ∧
          On (Streaming c live state''.routeReads) run) (Halts c) run := by
    intro state' error run hcancelled hrun
    rw [freshRouteFailed, wp_ite]
    split
    · exact streaming_exits.wp_rethrow ‹_› hrun
    rw [wp_ite]
    split
    · exact streaming_exits.wp_failClosed hrun
    · exact ⟨hcancelled, hrun⟩
  rw [readFreshRoute, wp_bind]
  -- only a conversation that the target owns is kept for the next look
  refine wp_attemptRoute _ hrun (fun locator run hrun => ?_) fun error run hrun => ?_
  · cases locator with
    | none => exact ⟨rfl, hrun.of_sublist (List.nil_sublist _)⟩
    | some locator =>
      dsimp only
      rcases ownsConversation c locator with error | _ | _ <;> dsimp only
      · exact hfailed _ error run rfl hrun
      · exact ⟨rfl, hrun.of_sublist (List.nil_sublist _)⟩
      · exact ⟨rfl, hrun⟩
  · refine hfailed pollState error run rfl ?_
    rw [PollState.routeReads, hnone]
    exact hrun

/-- The locator of a project is a URL. -/
def ValidTarget (c : TurnCall) : Prop :=
  ∀ projectLocator, c.target = .project projectLocator → (c.parseUrl projectLocator).isSome = true

/-- In a turn of a project, the test of a locator throws where that is not a URL. -/
theorem parseUrl_of_ownsConversation_error (hvalid : ValidTarget c) (hproject : isProject c = true)
    {locator : ConversationLocator} {error : ThrownError}
    (herror : ownsConversation c locator = .error error) : c.parseUrl locator = none := by
  rcases htarget : c.target with threadHandle | _ | projectLocator
  · simp [isProject, htarget] at hproject
  · simp [isProject, htarget] at hproject
  · obtain ⟨project, hparsed⟩ := Option.isSome_iff_exists.mp (hvalid projectLocator htarget)
    simp only [ownsConversation, htarget, conversationBelongsToProject, hparsed] at herror
    cases hlocator : c.parseUrl locator with
    | none => rfl
    | some conversation =>
      simp only [hlocator] at herror
      split at herror <;> cases herror

/-- The second route read of a poll. -/
theorem wp_readCurrentRoute (hvalid : ValidTarget c) (pollState : PollState)
    {freshLocator : ConversationLocator} {run : TurnRun}
    (hrun : On (Streaming c live [.routeRead (some freshLocator)]) run) :
    wp (readCurrentRoute c pollState freshLocator)
      (fun found run => found.2.callerCancelled = pollState.callerCancelled ∧
        found.2.freshLocator = pollState.freshLocator ∧
        ∃ reads, List.Sublist [.routeRead (some freshLocator)] reads ∧
          On (Streaming c live reads) run ∧ ∀ locator ∈ found.1, Located c locator reads)
      (Halts c) run := by
  have hfailed : ∀ (current : Option ConversationLocator) (error : ThrownError) (run : TurnRun)
      (reads : List TurnAction), List.Sublist [.routeRead (some freshLocator)] reads →
      On (Streaming c live reads) run → (∀ locator ∈ current, Located c locator reads) →
      wp (currentRouteFailed pollState current error)
        (fun found run => found.2.callerCancelled = pollState.callerCancelled ∧
          found.2.freshLocator = pollState.freshLocator ∧
          ∃ reads, List.Sublist [.routeRead (some freshLocator)] reads ∧
            On (Streaming c live reads) run ∧ ∀ locator ∈ found.1, Located c locator reads)
        (Halts c) run := by
    intro current error run reads hreads hrun hlocated
    rw [currentRouteFailed, wp_ite]
    split
    · exact streaming_exits.wp_rethrow ‹_› hrun
    · exact ⟨rfl, rfl, reads, hreads, hrun, hlocated⟩
  rw [readCurrentRoute, wp_bind]
  refine wp_attemptRoute _ hrun (fun read run hrun => ?_) fun error run hrun => ?_
  · have hreads : List.Sublist [TurnAction.routeRead (some freshLocator)]
        ([.routeRead (some freshLocator)] ++ [.routeRead read]) := List.sublist_append_left _ _
    cases read with
    | none => exact ⟨rfl, rfl, _, hreads, hrun, by simp⟩
    | some current =>
      dsimp only
      cases howns : ownsConversation c current with
      | error error =>
        refine hfailed (some current) error run _ hreads hrun ?_
        rintro _ ⟨⟩ hproject
        exact .inr (parseUrl_of_ownsConversation_error hvalid hproject howns)
      | ok owned =>
        dsimp only
        rw [wp_ite]
        -- the locator counts where it is owned and the one found first
        split
        · exact ⟨rfl, rfl, _, hreads, hrun, by simp⟩
        · rename_i hsame
          refine ⟨rfl, rfl, _, hreads, hrun, ?_⟩
          rintro _ ⟨⟩ hproject
          obtain ⟨rfl, rfl⟩ : owned = true ∧ current = freshLocator := by
            simpa [hproject] using hsame
          exact .inl ⟨current, howns, List.Sublist.refl _⟩
  · exact hfailed none error run _ (List.Sublist.refl _) hrun (by simp)

/-- Following the response. -/
theorem maintains_follow (snapshot : CdpTurnObservationSnapshot) {callerCancelled : Bool}
    (hlive : callerCancelled = false → live = true) :
    Maintains (On (Streaming c live reads)) (Halts c)
      (updateResponseDelivery c snapshot callerCancelled) := by
  refine maintains_updateResponseDelivery streaming_closed streaming_exits snapshot callerCancelled
    fun hcancelled events run hrun hundiscarded => ?_
  rw [hlive hcancelled] at hrun ⊢
  exact wp_deliverEvents events hrun hundiscarded

/-- After the write was seen finished, the route is read again, and then the write once more. -/
theorem Streaming.wp_revalidate (hvalid : ValidTarget c) (pollState : PollState)
    {freshLocator : ConversationLocator} {run : TurnRun}
    (hfresh : pollState.freshLocator = some freshLocator)
    (hlive : pollState.callerCancelled = false)
    (hrun : On (Streaming c true [.routeRead (some freshLocator)]) run) :
    wp (revalidate c pollState freshLocator) (Ended c) (Halts c) run := by
  rw [revalidate, wp_bind]
  refine wp_mono (wp_readCurrentRoute hvalid pollState hrun) (fun found run hfound => ?_)
    fun _ _ h => h
  obtain ⟨current, state⟩ := found
  obtain ⟨hcancelled, hlocator, reads, hreads, hrun, hlocated⟩ := hfound
  dsimp only at hcancelled hlocator hlocated ⊢
  rw [hlive] at hcancelled
  have hrouteReads : List.Sublist state.routeReads reads := by
    rw [PollState.routeReads, hlocator, hfresh]
    exact hreads
  rw [wp_bind]
  refine wp_mono (maintains_readTurnObservation streaming_observing streaming_exits run hrun)
    (fun snapshot run hrun => ?_) fun _ _ h => h
  rw [wp_bind, wp_isAborted, wp_bind]
  refine wp_mono (maintains_follow snapshot (fun _ => rfl) run hrun) (fun _ run hrun => ?_)
    fun _ _ h => h
  -- the write must be finished still; it may not have gone back
  rcases snapshot.write with _ | _ | _ | _ <;> dsimp only
  · exact streaming_exits.wp_failClosed hrun
  · exact streaming_exits.wp_failClosed hrun
  · rw [wp_bind, wp_isAborted, wp_ite]
    split
    · exact streaming_throws.wp_throwOrFailClosed streaming_exits hrun
    cases current with
    | some locator =>
      refine wp_finishFresh state locator (hrun.of_sublist hrouteReads) hcancelled fun hproject => ?_
      exact (hlocated locator rfl hproject).imp_left fun h => h.mono hrun.1
    | none =>
      rw [wp_bind, wp_ask, wp_ite]
      split
      · have hasked : On (Streaming c true reads) { run with asked := run.asked + 1 } := hrun
        exact streaming_throws.wp_throwConversationNotCreated streaming_exits hasked
      · show On (Streaming c (!state.callerCancelled) state.routeReads) _
        rw [hcancelled]
        exact hrun.of_sublist hrouteReads
  · exact streaming_throws.wp_throwOrFailClosed streaming_exits hrun

/-- A write that is over: the caller's abort comes first, then the conversation. -/
theorem Streaming.wp_settle (hvalid : ValidTarget c) (pollState : PollState)
    (write : CdpWriteLifecycleState) (now : Rat) {run : TurnRun}
    (hrun : On (Streaming c (!pollState.callerCancelled) pollState.routeReads) run) :
    wp (settle c pollState write now) (Ended c) (Halts c) run := by
  rw [settle, wp_bind, wp_isAborted, wp_bind, wp_record]
  have hlog : ∀ cancelled, On (Streaming c (!pollState.callerCancelled) pollState.routeReads)
      (run.log (.checkedCancellation write cancelled)) := fun _ => hrun.snoc rfl rfl
  cases hcancelled : (pollState.callerCancelled || abortedAt c run.asked) with
  | true =>
    simp only [if_true]
    exact streaming_throws.wp_throwOrFailClosed streaming_exits (hlog true)
  | false =>
    have hlive : pollState.callerCancelled = false := by
      cases h : pollState.callerCancelled <;> simp [h] at hcancelled ⊢
    have hrun := hlog false
    rw [hlive] at hrun
    simp only [Bool.false_eq_true, if_false]
    cases hfresh : pollState.freshLocator with
    | some freshLocator =>
      rw [PollState.routeReads, hfresh] at hrun
      exact Streaming.wp_revalidate hvalid _ rfl rfl hrun
    | none =>
      dsimp only
      rw [wp_ite]
      split
      · exact streaming_throws.wp_throwConversationNotCreated streaming_exits hrun
      · rw [PollState.routeReads, hfresh] at hrun
        exact hrun

/-- A write that is active is polled again, any other is over. -/
theorem Streaming.wp_settleUnlessActive (hvalid : ValidTarget c) (pollState : PollState)
    (write : CdpWriteLifecycleState) (now : Rat) {run : TurnRun}
    (hrun : On (Streaming c (!pollState.callerCancelled) pollState.routeReads) run) :
    wp (settleUnlessActive c pollState write now) (Ended c) (Halts c) run := by
  rw [settleUnlessActive, wp_ite]
  split
  · exact hrun
  · exact Streaming.wp_settle hvalid pollState write now hrun

/-- The conversation is looked for before the write is over. -/
theorem Streaming.wp_lookForConversation (hvalid : ValidTarget c) (pollState : PollState)
    (write : CdpWriteLifecycleState) (now : Rat) {run : TurnRun}
    (hrun : On (Streaming c (!pollState.callerCancelled) pollState.routeReads) run) :
    wp (lookForConversation c pollState write now) (Ended c) (Halts c) run := by
  rw [lookForConversation, wp_ite]
  split
  · rename_i hlook
    have hnone : pollState.freshLocator = none := by
      simpa using (Bool.and_eq_true_iff.mp hlook).2
    rw [PollState.routeReads, hnone] at hrun
    rw [wp_bind]
    refine wp_mono (wp_readFreshRoute pollState write hrun hnone) (fun state run hrun => ?_)
      fun _ _ h => h
    obtain ⟨hcancelled, hrun⟩ := hrun
    rw [← hcancelled] at hrun
    rw [wp_bind]
    refine wp_mono (maintains_readTurnObservation streaming_observing streaming_exits run hrun)
      (fun snapshot run hrun => ?_) fun _ _ h => h
    rw [wp_bind, wp_isAborted, wp_bind]
    refine wp_mono (maintains_follow snapshot (fun h => ?_) run hrun) (fun _ run hrun => ?_)
      fun _ _ h => h
    · simpa using (Bool.or_eq_false_iff.mp h).1
    rcases snapshot.write with _ | _ | _ | _ <;> dsimp only
    · exact streaming_exits.wp_failClosed hrun
    · rw [wp_ite]
      split
      · exact hrun
      · exact hrun
    · exact Streaming.wp_settleUnlessActive hvalid state write now hrun
    · exact streaming_throws.wp_throwOrFailClosed streaming_exits hrun
  · exact Streaming.wp_settleUnlessActive hvalid pollState write now hrun

/-- What a poll makes of the write that it saw. -/
theorem Streaming.wp_pollWrite (hvalid : ValidTarget c) (pollState : PollState)
    (write : CdpWriteLifecycleState) (now : Rat) {run : TurnRun}
    (hrun : On (Streaming c (!pollState.callerCancelled) pollState.routeReads) run) :
    wp (pollWrite c pollState write now) (Ended c) (Halts c) run := by
  unfold pollWrite
  rw [wp_bind]
  refine wp_mono (maintains_applyResponseDeadline streaming_closed streaming_exits _ _ run hrun)
    (fun _ run hrun => ?_) fun _ _ h => h
  cases write with
  | ACTIVE =>
    dsimp only
    rw [wp_ite]
    split
    · exact streaming_exits.wp_failClosed hrun
    · exact Streaming.wp_lookForConversation hvalid pollState .ACTIVE now hrun
  | FAILED => exact streaming_throws.wp_throwOrFailClosed streaming_exits hrun
  | FINISHED =>
    dsimp only
    -- the target decides where the conversation is to be found
    rcases htarget : c.target with threadHandle | _ | projectLocator <;> dsimp only
    · exact wp_finishThread pollState threadHandle hrun (by simp [isProject, htarget])
    · exact Streaming.wp_lookForConversation hvalid pollState .FINISHED now hrun
    · exact Streaming.wp_lookForConversation hvalid pollState .FINISHED now hrun

/-- A poll that begins with the signal aborted ends the delivery. -/
theorem Streams.polled (h : Streams c live trace state deltas) (aborted : Bool) :
    Streams c (live && !aborted) (trace ++ [.polled aborted]) state deltas where
  lawful := lawful_snoc_of_none h.lawful rfl
  unaborted hlive := by
    obtain ⟨hlive, haborted⟩ := Bool.and_eq_true_iff.mp hlive
    simpa using ⟨h.unaborted hlive, by simpa using haborted⟩
  events := by rw [deliveries_snoc rfl]; exact h.events
  unfinalized := h.unfinalized
  discarded := h.discarded
  accumulates herror :=
    { h.accumulates herror with
      faultless := by
        intro a ha hstops
        rcases List.mem_append.mp ha with ha | ha
        · exact (h.accumulates herror).faultless a ha hstops
        · rw [List.mem_singleton.mp ha] at hstops ⊢
          cases aborted with
          | true => rfl
          | false => cases hstops }

/-- One poll: it goes on with the invariant, or has the result and the completion is taken. -/
theorem Streaming.wp_poll (hvalid : ValidTarget c) (pollState : PollState) {run : TurnRun}
    (hrun : On (Streaming c (!pollState.callerCancelled) pollState.routeReads) run) :
    wp (poll c pollState) (Ended c) (Halts c) run := by
  rw [poll, wp_bind, wp_isAborted, wp_bind, wp_record, wp_bind, wp_ask, wp_bind]
  -- a poll that begins with the signal aborted is the last in which the stream is live
  obtain ⟨hreads, state, deltas, hstate, hstreams⟩ := hrun
  have hpolled : On (Streaming c (!(pollState.callerCancelled || abortedAt c run.asked))
      pollState.routeReads)
      { run.log (.polled (abortedAt c run.asked)) with asked := run.asked + 1 } := by
    rw [Bool.not_or]
    exact ⟨hreads.trans (List.sublist_append_left _ _), state, deltas, hstate, hstreams.polled _⟩
  refine wp_mono (maintains_readTurnObservation streaming_observing streaming_exits _ hpolled)
    (fun snapshot run' hrun' => ?_) fun _ _ h => h
  rw [wp_bind]
  refine wp_mono (maintains_follow snapshot (fun h => ?_) run' hrun') (fun _ run' hrun' => ?_)
    fun _ _ h => h
  · simpa using h
  cases snapshot.write with
  | none =>
    dsimp only
    rw [wp_ite]
    split
    · exact streaming_exits.wp_failClosed hrun'
    · exact hrun'
  | some write => exact Streaming.wp_pollWrite hvalid _ write _ hrun'

/-- The polls go on until one ends the turn, so the completion was taken. -/
theorem Streaming.wp_pollLoop (hvalid : ValidTarget c) (fuel : ℕ) (pollState : PollState)
    {run : TurnRun}
    (hrun : On (Streaming c (!pollState.callerCancelled) pollState.routeReads) run) :
    wp (pollLoop c fuel pollState) (fun _ run => Completed c run.trace) (Halts c) run := by
  induction fuel generalizing pollState run with
  | zero => exact streaming_exits.pending run hrun
  | succ fuel ih =>
    rw [pollLoop, wp_bind]
    refine wp_mono (Streaming.wp_poll hvalid pollState hrun) (fun outcome run hended => ?_)
      fun _ _ h => h
    cases outcome with
    | done result => exact hended
    | again state =>
      rw [wp_bind]
      exact ih state hended

/-! ## A turn -/

/-- Nothing about the delivery has happened yet, and the response is this. -/
def Silent (response : Option ResponseDeliveryState) : TurnInvariant :=
  fun trace state => (∀ action ∈ trace, delivery? action = none ∧ stopsDelivery action = false) ∧
    state = response

/-- The response at the start. -/
def startedResponse (c : TurnCall) : ResponseDeliveryState := { deliveryDeferred := isProject c }

variable {response : Option ResponseDeliveryState}

/-- Silence goes on over any action that neither delivers nor stops the delivery. -/
theorem Silent.snoc {state : Option ResponseDeliveryState} (h : Silent response trace state)
    (haction : delivery? action = none) (hstops : stopsDelivery action = false) :
    Silent response (trace ++ [action]) state := by
  refine ⟨fun a ha => ?_, h.2⟩
  rcases List.mem_append.mp ha with ha | ha
  · exact h.1 a ha
  · rw [List.mem_singleton.mp ha]
    exact ⟨haction, hstops⟩

/-- A silent trace obeys the law of the delivery. -/
theorem Silent.lawful {state : Option ResponseDeliveryState} (h : Silent response trace state) :
    Trace.Lawful (MayDeliver c) trace := by
  intro past a future hsplit hdelivery
  rw [(h.1 a (by simp [hsplit])).1] at hdelivery
  cases hdelivery

/-- The listener was not called. -/
theorem Silent.deliveries {state : Option ResponseDeliveryState} (h : Silent response trace state) :
    TurnExecutor.deliveries trace = [] :=
  List.filterMap_eq_nil_iff.mpr fun a ha => (h.1 a ha).1

/-- So the turn is incomplete. -/
theorem Silent.incomplete {state : Option ResponseDeliveryState} (h : Silent response trace state) :
    Incomplete c trace state := by
  refine ⟨⟨h.lawful, ?_⟩, by simp [h.deliveries]⟩
  rw [h.deliveries]
  exact followsProtocol_deltas _ []

/-- What no invariant looks at is silent. -/
theorem silent_neutral : Neutral (Silent response) := fun _ _ _ haction h =>
  h.snoc (delivery_of_isNeutral haction).1 (delivery_of_isNeutral haction).2

/-- So is an observation. -/
theorem silent_observing : Observing (Silent response) := fun _ _ _ h => h.snoc rfl rfl

/-- A silent turn may end in any of the ways that an invariant has to allow. -/
theorem silent_exits : Exits c (Silent response) (Halts c) :=
  exits_of_incomplete fun _ _ h => h.incomplete

/-- And it may throw anything. -/
theorem silent_throws : Throws (Silent response) (Halts c) :=
  throws_of_incomplete fun _ _ h => h.incomplete

/-- The response that was started is one that is being delivered. -/
theorem Silent.streaming {state : Option ResponseDeliveryState}
    (h : Silent (some (startedResponse c)) trace state) (live : Bool) :
    Streaming c live [] trace state := by
  have hquiet : ∀ action, stopsDelivery action = true → action ∉ trace := by
    intro a hstops ha
    simp [(h.1 a ha).2] at hstops
  refine ⟨List.nil_sublist _, _, [], h.2,
    { lawful := h.lawful
      unaborted := fun _ => hquiet _ rfl
      events := by rw [h.deliveries]; rfl
      unfinalized := rfl
      discarded := fun herror => absurd rfl herror
      accumulates := fun _ =>
        { faultless := fun a ha hstops => absurd ha (hquiet a hstops)
          deferred := rfl
          none_deferred := fun _ => rfl
          text := fun _ => rfl
          bounded := .inl rfl } }⟩

/-- A turn with a listener starts its response. -/
theorem Silent.wp_startResponse (hlistening : c.listening = true) {run : TurnRun}
    (hrun : On (Silent none) run) :
    wp (startResponse c) (fun _ => On (Silent (some (startedResponse c)))) (Halts c) run := by
  rw [startResponse, wp_onlyIf, if_pos hlistening, wp_bind]
  refine wp_mono (maintains_assertNoObservedPreSubmitWrite silent_observing silent_exits silent_throws
    false run hrun) (fun _ run hrun => ?_) fun _ _ h => h
  rw [wp_modify]
  exact ⟨hrun.1, rfl⟩

/-- The turn, from its armed observation on. -/
theorem Silent.wp_runTurn (hvalid : ValidTarget c) (hlistening : c.listening = true) (fuel : ℕ)
    (expectedRoute : RouteExpectation) (node : Option Rat) {run : TurnRun}
    (hrun : On (Silent none) run) :
    wp (runTurn c fuel expectedRoute node) (fun _ run => Completed c run.trace) (Halts c) run := by
  rw [runTurn, wp_bind]
  refine wp_mono (wp_insertWhileIdle silent_exits silent_throws silent_neutral silent_observing
    silent_exits silent_throws (fun _ hrun => Silent.wp_startResponse hlistening hrun) node hrun)
    (fun form run hrun => ?_) fun _ _ h => h
  rw [wp_bind, wp_record, wp_bind]
  have hcommitted : On (Silent (some (startedResponse c))) (run.log .committed) :=
    hrun.snoc rfl rfl
  refine wp_mono (maintains_submit silent_neutral silent_exits expectedRoute node form _ hcommitted)
    (fun _ run hrun => ?_) fun _ _ h => h
  rw [wp_bind, wp_isAborted, waitForTurnOutcome, wp_bind, wp_ask]
  exact Streaming.wp_pollLoop hvalid fuel _ (hrun.streaming _)

/-- How a turn ends that hands its response to a listener. -/
def Delivers (c : TurnCall) (resolved : Bool) (run : TurnRun) : Prop :=
  Proper c run.trace ∧ (resolved = true ↔ (.completed, false) ∈ deliveries run.trace)

/-- A turn that throws has not delivered its completion. -/
theorem Delivers.of_halts {i : Interrupt ThrownError} {run : TurnRun} (h : Halts c i run) :
    Delivers c false run :=
  ⟨h.1, iff_of_false Bool.false_ne_true h.2⟩

/-- The whole execution, up to the release. -/
theorem wp_executeScheduled_delivers (hvalid : ValidTarget c) (hlistening : c.listening = true)
    (hrelease : ∀ question, c.environment.releaseTurnObservation question = .ok ()) (fuel : ℕ)
    {run : TurnRun} (hrun : On (Silent none) run) :
    wp (executeScheduled c fuel) (fun _ => Delivers c true) (fun _ => Delivers c false) run := by
  have hhalts : ∀ i run, Halts c i run → Delivers c false run := fun _ _ h => .of_halts h
  rw [executeScheduled, wp_bind]
  refine wp_mono (maintains_resolveExpectedRoute silent_throws run hrun)
    (fun expectedRoute run hrun => ?_) hhalts
  rw [wp_bind]
  refine wp_mono (maintains_beforeCommit silent_exits silent_throws
    (maintains_prepareComposer silent_neutral expectedRoute) run hrun) (fun node run hrun => ?_) hhalts
  rw [wp_bind]
  refine wp_mono (maintains_beforeCommit silent_exits silent_throws
    (maintains_armTurnObservation silent_neutral) run hrun) (fun _ run hrun => ?_) hhalts
  rw [wp_finalize]
  refine wp_mono (Silent.wp_runTurn hvalid hlistening fuel expectedRoute node hrun)
    (fun result run hdone => ?_) fun i run hhalts' => ?_
  · -- the release does not throw, and delivers nothing
    rw [releaseTurnObservation, wp_bind, wp_ask, hrelease]
    refine ⟨hdone.1.snoc rfl, iff_of_true rfl ?_⟩
    show (.completed, false) ∈ deliveries (run.trace ++ [.releasedTurnObservation none])
    rw [deliveries_snoc rfl]
    exact hdone.2
  · cases i with
    | pending => exact .of_halts hhalts'
    | thrown error =>
      show wp (releaseTurnObservation c) _ _ run
      rw [releaseTurnObservation, wp_bind, wp_ask, hrelease]
      have hincomplete : On (Incomplete c) run := hhalts'
      exact .of_halts (i := .pending) (hincomplete.snoc rfl)

/-- And with the queue around it. -/
theorem wp_executeInternal_delivers (hvalid : ValidTarget c) (hlistening : c.listening = true)
    (hrelease : ∀ question, c.environment.releaseTurnObservation question = .ok ()) (fuel : ℕ)
    {run : TurnRun} (hrun : On (Silent none) run) :
    wp (executeInternal c fuel) (fun _ => Delivers c true) (fun _ => Delivers c false) run := by
  have hrefused : Delivers c false run := .of_halts (i := .pending) hrun.incomplete
  rw [executeInternal, wp_ite]
  split
  · exact hrefused
  cases c.environment.refusal with
  | some error => exact hrefused
  | none => exact wp_executeScheduled_delivers hvalid hlistening hrelease fuel hrun

/-- The events that a turn hands to its listener follow the protocol, each is delivered when the law
of the delivery allows it, and the turn resolves exactly when the listener has taken the completion,
where the release of the observation does not throw. -/
theorem response_event_protocol (c : TurnCall) (fuel : ℕ) (registry : ThreadRegistry)
    (outcome : Except (Interrupt ThrownError) TurnResult) (run : TurnRun) (hvalid : ValidTarget c)
    (hrelease : ∀ question, c.environment.releaseTurnObservation question = .ok ())
    (hrun : executeStreaming c fuel { registry } = (outcome, run)) :
    FollowsProtocol c.options.maxAccumulatedTextChars ((deliveries run.trace).map Prod.fst) ∧
      ((∃ result, outcome = .ok result) ↔ (.completed, false) ∈ deliveries run.trace) ∧
      Trace.Lawful (MayDeliver c) run.trace := by
  have hstart : On (Silent none) { registry } :=
    ⟨by simp, rfl⟩
  have hwp := wp_apply (wp_executeInternal_delivers (c := { c with listening := true }) hvalid rfl
    hrelease fuel hstart)
  rw [executeStreaming] at hrun
  rw [hrun] at hwp
  cases outcome with
  | ok result => exact ⟨hwp.1.protocol, by simpa using hwp.2, hwp.1.lawful⟩
  | error i => exact ⟨hwp.1.protocol, by simpa using hwp.2, hwp.1.lawful⟩

/-- A turn of a thread. From its second poll on the write is finished and the response completed,
which came in two pieces. -/
def streamedTurn : TurnCall where
  environment :=
    { smoothEnvironment fun question =>
        { prepareCount := 1
          write := if question < 10 then none else some .FINISHED
          response := some ⟨if question < 10 then .STREAMING else .COMPLETED, none⟩ } with
      takeTurnResponseEvents := fun question => .ok
        (if question < 12 then [.textDelta (Text.of "an")]
        else [.textDelta (Text.of "swer"), .completed]) }
  parseUrl _ := none
  target := .thread "tw_a"
  text := Text.of "hi"
  lease := ⟨1, ⟨7, "a"⟩⟩
  listening := false

/-- How this turn ends. -/
def streamedTurnEnd : Except (Interrupt ThrownError) TurnResult × TurnRun :=
  executeStreaming streamedTurn 3 { registry := oneThread }

/-- The listener takes both pieces, the whole answer and the completion, and the turn resolves. -/
theorem response_event_protocol_streamed :
    deliveries streamedTurnEnd.2.trace =
        [(.textDelta (Text.of "an"), false), (.textDelta (Text.of "swer"), false),
          (.finalText (Text.of "answer"), false), (.completed, false)] ∧
      ∃ result, streamedTurnEnd.1 = .ok result := by
  have hdeliveries : deliveries streamedTurnEnd.2.trace =
      [(.textDelta (Text.of "an"), false), (.textDelta (Text.of "swer"), false),
        (.finalText (Text.of "answer"), false), (.completed, false)] := by decide +kernel
  refine ⟨hdeliveries, ?_⟩
  refine (response_event_protocol streamedTurn 3 oneThread streamedTurnEnd.1 streamedTurnEnd.2 ?_
    (fun _ => rfl) rfl).2.1.mpr ?_
  · intro projectLocator htarget
    cases htarget
  · rw [hdeliveries]
    simp

end TurnExecutor

end Threadwire
