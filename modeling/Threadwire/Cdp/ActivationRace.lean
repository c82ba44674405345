import Threadwire.Cdp.TrackerLifecycle
import Threadwire.Response.ConsumerQueue

/-!
# The activation race

A request is selected and its stream is asked for; the answer, live data, the end of the transport
and drains come in any order. `activation_race_invisible` says that the order does not show: the
events are those of a single consumer that is fed the data of the answer and then the live data, and
is finished if the transport settled.
-/

namespace Threadwire

namespace CdpResponseStreamTracker

open CdpResponseStreamLifecycleState ResponseStreamConsumer ConsumerRun

namespace TrackerAction

/-- The actions of the race, apart from the answer itself. -/
def observes : TrackerAction → Bool
  | .select _ | .begin _ _ | .data _ _ | .settled _ _ | .drain => true
  | .activated _ _ | .activationRejected _ | .fail _ | .discard | .dispose => false

/-- The data an action brings for `r`. -/
def dataOf (r : RequestId) : TrackerAction → List Text
  | .data requestId (some chunk) => if requestId = r then [chunk] else []
  | _ => []

/-- Whether an action settles the transport of `r`. -/
def settles (r : RequestId) : TrackerAction → Bool
  | .settled requestId _ => requestId == r
  | _ => false

/-- What a serial consumer of `r` is called with. -/
def calls (r : RequestId) (a : TrackerAction) : List ConsumerCall :=
  (a.dataOf r).map .pushBase64 ++ if a.settles r then [.finish] else []

end TrackerAction

open TrackerAction (dataOf settles calls)

/-- The actions after `begin`: the transport of `r` does not fail, and no data for `r` and no second
settlement comes after it has settled. -/
def Orderly (r : RequestId) : (settled : Bool) → List TrackerAction → Prop
  | _, [] => True
  | settled, a :: as =>
    a.observes ∧ a ≠ .settled r true ∧ (settled = true → a.dataOf r = [] ∧ a.settles r = false) ∧
      Orderly r (settled || a.settles r) as

/-- A trace in which `r` is selected and begun and its activation succeeds. -/
structure ActivationRace (r : RequestId) where
  early : List TrackerAction
  between : List TrackerAction
  pending : List TrackerAction
  bufferedData : Option Text
  live : List TrackerAction
  early_observes : ∀ a ∈ early, a.observes ∧ ∀ requestId, a ≠ .select requestId
  between_observes : ∀ a ∈ between,
    a.observes ∧ a.settles r = false ∧ ∀ network, a ≠ .begin r network
  orderly : Orderly r false (pending ++ live)

namespace ActivationRace

variable {r : RequestId} (race : ActivationRace r)

/-- The whole trace. -/
def trace : List TrackerAction :=
  race.early ++ .select r :: race.between ++ .begin r .promises :: race.pending ++
    .activated r race.bufferedData :: race.live

/-- The buffered data, then the live data of `r` in the order of arrival. -/
def data : List Text :=
  race.bufferedData.toList ++ (race.pending ++ race.live).flatMap (dataOf r)

/-- Whether the transport of `r` settled. -/
def transportSettled : Bool := (race.pending ++ race.live).any (settles r)

end ActivationRace

variable {r : RequestId} {limits : ConsumerLimits}

/-- The calls of orderly actions are the data in order, and `finish` at the end. -/
theorem calls_of_orderly {settled : Bool} {as : List TrackerAction} (h : Orderly r settled as) :
    as.flatMap (calls r) =
      (as.flatMap (dataOf r)).map .pushBase64 ++ (if as.any (settles r) then [.finish] else []) ∧
      (settled = true → as.flatMap (calls r) = []) := by
  induction as generalizing settled with
  | nil => exact ⟨rfl, fun _ => rfl⟩
  | cons a as ih =>
    obtain ⟨-, -, hafter, hrest⟩ := h
    obtain ⟨hcalls, hnone⟩ := ih hrest
    rw [List.flatMap_cons]
    refine ⟨?_, fun hsettled => ?_⟩
    · by_cases hsettles : a.settles r = true
      · have hempty := hnone (by simp [hsettles])
        have hdata : as.flatMap (dataOf r) = [] := by
          simpa using (List.append_eq_nil_iff.mp (hcalls.symm.trans hempty)).1
        simp [hempty, calls, hsettles, hdata]
      · rw [hcalls, calls]
        simp [hsettles]
    · obtain ⟨hdata, hsettles⟩ := hafter hsettled
      rw [hnone (by simp [hsettled]), calls, hdata, hsettles]
      rfl

/-- An orderly trace is cut into two, and the second knows whether the first settled the
transport. -/
theorem orderly_append {settled : Bool} {as bs : List TrackerAction}
    (h : Orderly r settled (as ++ bs)) :
    Orderly r settled as ∧ Orderly r (settled || as.any (settles r)) bs := by
  induction as generalizing settled with
  | nil => simpa [Orderly] using h
  | cons a as ih =>
    obtain ⟨hobserves, hfailed, hafter, hrest⟩ := h
    obtain ⟨has, hbs⟩ := ih hrest
    exact ⟨⟨hobserves, hfailed, hafter, has⟩, by simpa [Bool.or_assoc] using hbs⟩

/-! ## Before the answer -/

variable {run run' : TrackerRun} {t : CdpResponseStreamTracker}

/-- `r` is the selected request of a tracker in use. -/
def Current (r : RequestId) (t : CdpResponseStreamTracker) : Prop :=
  t.disposed = false ∧ t.selectedRequestId = some r

/-- The current request of a tracker in use is the selected one. -/
theorem Current.isCurrent (h : Current r t) (requestId : RequestId) :
    t.isCurrent requestId = (requestId == r) := by
  rw [CdpResponseStreamTracker.isCurrent, h.1, h.2]
  simp [eq_comm, Bool.beq_eq_decide_eq]

/-- Selecting another request does nothing once one is selected. -/
theorem Current.select (h : Current r t) (requestId : RequestId) : t.select requestId = t := by
  rw [CdpResponseStreamTracker.select, h.2]
  simp

/-- Beginning again does nothing: another request is not selected, and this one is begun. -/
theorem Current.begin (h : Current r t) {requestId : RequestId} (network : StreamResourceContent)
    (hbegun : requestId = r → t.lifecycle ≠ PENDING ∨ t.activationPending = true) :
    t.begin requestId network = t := by
  rw [CdpResponseStreamTracker.begin, h.isCurrent]
  refine if_pos ?_
  by_cases hr : requestId = r
  · rcases hbegun hr with hlifecycle | hpending
    · simp [hlifecycle]
    · simp [hpending]
  · simp [hr]

/-- What a failure makes of a tracker in use. -/
theorem Current.fail (h : Current r t) (hopen : t.lifecycle ≠ COMPLETED)
    (failure : CdpResponseStreamFailureKind) :
    t.fail failure =
      { t with
        lifecycle := .FAILED
        failure := some failure
        consumer := t.consumer.map ResponseStreamConsumer.stop
        activationPending := false
        activated := false
        pendingLiveData := []
        pendingLiveBase64Chars := 0 } := by
  rw [CdpResponseStreamTracker.fail, h.1]
  simp [hopen]

/-- A limit was hit. -/
structure Overflows (r : RequestId) (t : CdpResponseStreamTracker) : Prop where
  current : Current r t
  lifecycle : t.lifecycle = FAILED
  failure : t.failure = some .BUFFER_OVERFLOW
  pending : t.activationPending = false

/-- A buffer that overflows ends the stream with its own failure. -/
theorem Current.overflows (h : Current r t) (hopen : t.lifecycle ≠ COMPLETED) :
    Overflows r (t.fail .BUFFER_OVERFLOW) ∧ (t.fail .BUFFER_OVERFLOW).activations = t.activations := by
  rw [h.fail hopen]
  exact ⟨⟨h, rfl, rfl, rfl⟩, rfl⟩

/-- A tracker that has overflowed stays as it is. -/
theorem Overflows.step {a : TrackerAction} (h : Overflows r run.tracker) (hobserves : a.observes)
    (hfailed : a ≠ .settled r true) :
    ∃ run', run.step limits a = some run' ∧ Overflows r run'.tracker ∧
      run'.tracker.activations = run.tracker.activations := by
  -- The methods of a tracker that has failed return at once.
  have hsame : ∀ t : CdpResponseStreamTracker, t = run.tracker →
      ∃ run', some { run with tracker := t } = some run' ∧ Overflows r run'.tracker ∧
        run'.tracker.activations = run.tracker.activations := by
    rintro t rfl
    exact ⟨_, rfl, h, rfl⟩
  cases a with
  | select requestId => exact hsame _ (h.current.select requestId)
  | begin requestId network =>
    exact hsame _ (h.current.begin network fun _ => .inl (by simp [h.lifecycle]))
  | data requestId data =>
    refine hsame _ ?_
    unfold onData
    cases data <;> simp [h.lifecycle]
  | settled requestId failed =>
    refine hsame _ ?_
    unfold onTransportSettled
    rw [h.current.isCurrent]
    by_cases hr : requestId = r
    · cases failed with
      | false => simp [h.pending, h.lifecycle]
      | true => exact absurd (by rw [hr]) hfailed
    · simp [hr]
  | drain =>
    refine ⟨_, rfl, ?_⟩
    show Overflows r run.tracker.drain.2 ∧
      run.tracker.drain.2.activations = run.tracker.activations
    unfold drain
    cases run.tracker.consumer with
    | none => exact ⟨h, rfl⟩
    | some consumer =>
      dsimp only
      split <;> exact ⟨⟨h.current, h.lifecycle, h.failure, h.pending⟩, rfl⟩
  | activated _ _ | activationRejected _ | fail _ | discard | dispose => cases hobserves

/-- The tracker while its activation is pending: the data that arrived is queued. -/
def Waits (r : RequestId) (data : List Text) (settled : Bool) (run : TrackerRun) : Prop :=
  ∃ chars, run =
    { tracker :=
        { selectedRequestId := some r
          activationPending := true
          transportSettledWhileActivationPending := settled
          pendingLiveData := data
          pendingLiveBase64Chars := chars
          activations := [r] } }

variable {data : List Text} {settled : Bool}

/-- One action while the activation is pending. -/
theorem Waits.step {a : TrackerAction} (h : Waits r data settled run) (hobserves : a.observes)
    (hfailed : a ≠ .settled r true) :
    ∃ run', run.step limits a = some run' ∧
      (Waits r (data ++ a.dataOf r) (settled || a.settles r) run' ∨
        Overflows r run'.tracker ∧ run'.tracker.activations = [r]) := by
  obtain ⟨chars, rfl⟩ := h
  have hcurrent : Current r
      { selectedRequestId := some r
        activationPending := true
        transportSettledWhileActivationPending := settled
        pendingLiveData := data
        pendingLiveBase64Chars := chars
        activations := [r] } := ⟨rfl, rfl⟩
  cases a with
  | select requestId =>
    refine ⟨_, rfl, .inl ⟨chars, ?_⟩⟩
    rw [hcurrent.select]
    simp [dataOf, settles]
  | begin requestId network =>
    refine ⟨_, rfl, .inl ⟨chars, ?_⟩⟩
    rw [hcurrent.begin network fun _ => .inr rfl]
    simp [dataOf, settles]
  | data requestId arrived =>
    refine ⟨_, rfl, ?_⟩
    unfold onData
    cases arrived with
    | none => exact .inl ⟨chars, by simp [dataOf, settles]⟩
    | some arrived =>
      dsimp only
      rw [hcurrent.isCurrent]
      -- Data of the request is kept until the answer comes, or overflows the buffer.
      by_cases hr : requestId = r
      · rw [if_neg (by simp [hr]), if_pos (by simp)]
        split
        · exact .inr (hcurrent.overflows (by simp))
        split
        · have hcounted : Current r
              { selectedRequestId := some r
                activationPending := true
                transportSettledWhileActivationPending := settled
                pendingLiveData := data
                pendingLiveBase64Chars := chars + arrived.length
                activations := [r] } := ⟨rfl, rfl⟩
          exact .inr (hcounted.overflows (by simp))
        · exact .inl ⟨_, by simp [dataOf, settles, hr]; rfl⟩
      · rw [if_pos (by simp [hr])]
        exact .inl ⟨chars, by simp [dataOf, settles, hr]⟩
  | settled requestId failed =>
    refine ⟨_, rfl, .inl ⟨chars, ?_⟩⟩
    unfold onTransportSettled
    rw [hcurrent.isCurrent]
    -- The transport of the request is only noted.
    by_cases hr : requestId = r
    · cases failed with
      | false => simp [dataOf, settles, hr]
      | true => exact absurd (by rw [hr]) hfailed
    · simp [dataOf, settles, hr]
  | drain => exact ⟨_, rfl, .inl ⟨chars, by simp [dataOf, settles]⟩⟩
  | activated _ _ | activationRejected _ | fail _ | discard | dispose => cases hobserves

/-! ## After the answer -/

/-- The tracker is streaming, and its consumer is the serial one but for what is queued. -/
structure Streams (r : RequestId) (drained : List NormalizedResponseStreamEvent)
    (serial : ConsumerRun) (t : CdpResponseStreamTracker) : Prop where
  current : Current r t
  lifecycle : t.lifecycle = STREAMING
  activated : t.activated = true
  pending : t.activationPending = false
  incomplete : serial.consumer.completedState = false
  shadows : ∃ consumer, t.consumer = some consumer ∧ Shadows drained consumer serial

/-- The tracker has come to an end: the serial consumer has completed or failed, or it was finished
and is left incomplete. -/
structure Ends (r : RequestId) (drained : List NormalizedResponseStreamEvent)
    (serial : ConsumerRun) (settled : Bool) (t : CdpResponseStreamTracker) : Prop where
  current : Current r t
  lifecycle : t.lifecycle = if serial.consumer.completedState then COMPLETED else FAILED
  pending : t.activationPending = false
  ended : serial.Ended ∨ settled = true
  empty : serial.consumer.events = []
  drained_eq : ∃ consumer, t.consumer = some consumer ∧
    drained ++ consumer.events = serial.drained

/-- The tracker beside the serial consumer, after its activation. -/
def Served (r : RequestId) (drained : List NormalizedResponseStreamEvent) (serial : ConsumerRun)
    (settled : Bool) (t : CdpResponseStreamTracker) : Prop :=
  settled = false ∧ Streams r drained serial t ∨ Ends r drained serial settled t ∨ Overflows r t

variable {drained : List NormalizedResponseStreamEvent} {serial serial' : ConsumerRun}

variable (limits) in
/-- Before the transport settles, nothing that is still to come matters to an ended tracker. -/
theorem Ends.serveAll (h : Ends r drained serial false t) (calls : List ConsumerCall)
    (settled : Bool) : Ends r drained (serial.serveAll limits calls) settled t := by
  have hended : serial.Ended := h.ended.resolve_right Bool.false_ne_true
  rw [serveAll_of_ended hended h.empty]
  exact ⟨h.current, h.lifecycle, h.pending, .inl hended, h.empty, h.drained_eq⟩

/-- A tracker that has come to an end is terminal. -/
theorem Ends.isTerminal (h : Ends r drained serial settled t) : t.isTerminal = true := by
  rw [CdpResponseStreamTracker.isTerminal, h.lifecycle]
  split <;> rfl

/-- A tracker that streams is not terminal. -/
theorem Streams.not_terminal (h : Streams r drained serial t) : t.isTerminal = false := by
  rw [CdpResponseStreamTracker.isTerminal, h.lifecycle]
  rfl

/-- A consumer that threw has failed its tracker. -/
theorem Streams.failWith (h : Streams r drained serial t)
    {kind : ResponseStreamConsumerFailureKind} {consumer : ResponseStreamConsumer}
    (hbeside : Beside drained serial' (.error kind, consumer)) (settled : Bool) :
    Served r drained serial' settled ({ t with consumer := some consumer }.failWith kind) := by
  have hcurrent : Current r { t with consumer := some consumer } := h.current
  have hopen : ({ t with consumer := some consumer } : CdpResponseStreamTracker).lifecycle ≠
      COMPLETED := by simp [h.lifecycle]
  cases kind with
  | bufferOverflow => exact .inr (.inr (hcurrent.overflows hopen).1)
  | parseFailed =>
    obtain ⟨hdrained, hempty, hfailed, hincomplete⟩ := hbeside
    refine .inr (.inl ?_)
    rw [CdpResponseStreamTracker.failWith, hcurrent.fail hopen]
    exact ⟨hcurrent, by rw [hincomplete]; rfl, rfl, .inl (.inl (by rw [hfailed]; rfl)), hempty,
      consumer.stop, rfl, hdrained⟩

variable (limits) in
/-- Consuming a chunk. -/
theorem Streams.consumeBase64 (h : Streams r drained serial t) (data : Text) :
    Served r drained (serial.serve limits (.pushBase64 data)) false (t.consumeBase64 limits data) := by
  obtain ⟨consumer, hconsumer, hshadows⟩ := h.shadows
  have hbeside := hshadows.pushBase64 limits data
  unfold CdpResponseStreamTracker.consumeBase64
  rw [hconsumer]
  dsimp only
  rcases hpush : consumer.pushBase64 limits data with ⟨kind | _, consumer'⟩ <;> rw [hpush] at hbeside
  · exact h.failWith hbeside false
  · have hcompleted := hbeside.longer.completedState_eq
    dsimp only
    split
    · rename_i hdone
      rw [hcompleted] at hdone
      exact .inr (.inl ⟨h.current, by rw [hdone]; rfl, h.pending, .inl (.inr hdone), hbeside.empty,
        consumer', rfl, hbeside.drained_eq⟩)
    · rename_i hopen
      exact .inl ⟨rfl, h.current, h.lifecycle, h.activated, h.pending,
        by simpa [hcompleted] using hopen, consumer', rfl, hbeside⟩

/-- Finishing. -/
theorem Streams.finishConsumer (h : Streams r drained serial t) :
    Served r drained (serial.serve limits .finish) true (t.finishConsumer limits) := by
  obtain ⟨consumer, hconsumer, hshadows⟩ := h.shadows
  have hbeside := hshadows.finish limits
  unfold CdpResponseStreamTracker.finishConsumer
  rw [hconsumer]
  dsimp only
  rcases hfinish : consumer.finish limits with ⟨kind | _, consumer'⟩ <;> rw [hfinish] at hbeside
  · exact h.failWith hbeside true
  · have hcompleted := hbeside.longer.completedState_eq
    have hcurrent : Current r { t with consumer := some consumer' } := h.current
    dsimp only
    split
    · rename_i hdone
      rw [hcompleted] at hdone
      exact .inr (.inl ⟨h.current, by rw [hdone]; rfl, h.pending, .inr rfl, hbeside.empty,
        consumer', rfl, hbeside.drained_eq⟩)
    · rename_i hopen
      rw [hcompleted] at hopen
      rw [hcurrent.fail (by simp [h.lifecycle])]
      exact .inr (.inl ⟨h.current, by simp [hopen], rfl, .inr rfl, hbeside.empty,
        consumer'.stop, rfl, hbeside.drained_eq⟩)

/-- Draining. -/
theorem Served.drain (h : Served r drained serial settled t) :
    Served r (drained ++ t.drain.1) serial settled t.drain.2 := by
  rcases h with ⟨hopen, hstreams⟩ | hends | hoverflows
  · obtain ⟨consumer, hconsumer, hshadows⟩ := hstreams.shadows
    rw [CdpResponseStreamTracker.drain, hconsumer]
    dsimp only
    rw [drain_eq]
    exact .inl ⟨hopen, hstreams.current, hstreams.lifecycle, hstreams.activated, hstreams.pending,
      hstreams.incomplete, _, rfl, hshadows.drain⟩
  · obtain ⟨consumer, hconsumer, hdrained⟩ := hends.drained_eq
    rw [CdpResponseStreamTracker.drain, hconsumer]
    dsimp only
    rw [drain_eq]
    exact .inr (.inl ⟨hends.current, hends.lifecycle, hends.pending, hends.ended, hends.empty, _, rfl,
      by simpa using hdrained⟩)
  · refine .inr (.inr ?_)
    unfold CdpResponseStreamTracker.drain
    cases t.consumer with
    | none => exact hoverflows
    | some consumer =>
      dsimp only
      rw [drain_eq]
      exact ⟨hoverflows.current, hoverflows.lifecycle, hoverflows.failure, hoverflows.pending⟩

/-- One action after the activation. -/
theorem Served.step {a : TrackerAction} (h : Served r run.drained serial settled run.tracker)
    (hobserves : a.observes) (hfailed : a ≠ .settled r true)
    (hafter : settled = true → a.dataOf r = [] ∧ a.settles r = false) :
    ∃ run', run.step limits a = some run' ∧
      Served r run'.drained (serial.serveAll limits (a.calls r)) (settled || a.settles r)
        run'.tracker := by
  have hcurrent : Current r run.tracker := by
    rcases h with ⟨-, hstreams⟩ | hends | hoverflows
    · exact hstreams.current
    · exact hends.current
    · exact hoverflows.current
  have hbegun : run.tracker.lifecycle ≠ PENDING := by
    rcases h with ⟨-, hstreams⟩ | hends | hoverflows
    · simp [hstreams.lifecycle]
    · rw [hends.lifecycle]
      split <;> simp
    · simp [hoverflows.lifecycle]
  -- an action that is none of `r`'s business
  have hsame : ∀ t : CdpResponseStreamTracker, t = run.tracker → a.dataOf r = [] →
      a.settles r = false → ∃ run', some { run with tracker := t } = some run' ∧
        Served r run'.drained (serial.serveAll limits (a.calls r)) (settled || a.settles r)
          run'.tracker := by
    rintro t rfl hdata hsettles
    refine ⟨_, rfl, ?_⟩
    rw [calls, hdata, hsettles]
    simpa using h
  cases a with
  | select requestId => exact hsame _ (hcurrent.select requestId) rfl rfl
  | begin requestId network => exact hsame _ (hcurrent.begin network fun _ => .inl hbegun) rfl rfl
  | data requestId arrived =>
    cases arrived with
    | none => exact hsame _ rfl rfl rfl
    | some arrived =>
      by_cases hr : requestId = r
      · subst hr
        have hopen : settled = false := by
          by_contra hsettled
          have hdata := (hafter (by simpa using hsettled)).1
          simp [dataOf] at hdata
        subst hopen
        refine ⟨_, rfl, ?_⟩
        simp only [calls, dataOf, settles, if_true, List.map_cons, List.map_nil, Bool.or_false,
          Bool.false_eq_true, if_false, List.append_nil, onData, hcurrent.isCurrent]
        rcases h with ⟨-, hstreams⟩ | hends | hoverflows
        · simpa [hstreams.lifecycle, hstreams.pending, hstreams.activated] using
            hstreams.consumeBase64 limits arrived
        · rw [if_pos (by rw [hends.lifecycle]; split <;> simp)]
          exact .inr (.inl (hends.serveAll limits _ _))
        · rw [if_pos (by simp [hoverflows.lifecycle])]
          exact .inr (.inr hoverflows)
      · refine hsame _ ?_ (if_neg hr) rfl
        simp [onData, hcurrent.isCurrent, hr]
  | settled requestId failed =>
    by_cases hr : requestId = r
    · subst hr
      have hsuccess : failed = false := by
        cases failed with
        | false => rfl
        | true => exact absurd rfl hfailed
      subst hsuccess
      have hopen : settled = false := by
        by_contra hsettled
        have hsettles := (hafter (by simpa using hsettled)).2
        simp [settles] at hsettles
      subst hopen
      refine ⟨_, rfl, ?_⟩
      simp only [calls, dataOf, settles, beq_self_eq_true, if_true, List.map_nil, List.nil_append,
        Bool.or_true, onTransportSettled, hcurrent.isCurrent]
      rcases h with ⟨-, hstreams⟩ | hends | hoverflows
      · simpa [hstreams.lifecycle, hstreams.pending] using
          hstreams.finishConsumer
      · have hends' := hends.serveAll limits [.finish] true
        refine .inr (.inl ?_)
        have hlifecycle := hends.lifecycle
        split at hlifecycle <;> simpa [hlifecycle, hends.pending] using hends'
      · have hoverflows' : Served requestId run.drained (serial.serve limits .finish) true
            run.tracker := .inr (.inr hoverflows)
        simpa [hoverflows.lifecycle, hoverflows.pending] using hoverflows'
    · refine hsame _ ?_ rfl (by simp [settles, hr])
      simp [onTransportSettled, hcurrent.isCurrent, hr]
  | drain =>
    refine ⟨_, rfl, ?_⟩
    show Served r (run.drained ++ run.tracker.drain.1) (serial.serveAll limits [])
      (settled || false) run.tracker.drain.2
    rw [Bool.or_false]
    exact h.drain
  | activated _ _ | activationRejected _ | fail _ | discard | dispose => cases hobserves

/-! ## The answer -/

/-- While it goes on streaming, consuming leaves the queue of live data alone. -/
structure SameQueue (t t' : CdpResponseStreamTracker) : Prop where
  settled : t'.transportSettledWhileActivationPending = t.transportSettledWhileActivationPending
  queue : t'.lifecycle = STREAMING → t'.pendingLiveData = t.pendingLiveData

/-- A failure does not go on streaming, so it may clear the queue. -/
theorem fail_sameQueue (hopen : t.disposed = false ∧ t.lifecycle ≠ COMPLETED)
    (failure : CdpResponseStreamFailureKind) : SameQueue t (t.fail failure) := by
  rw [CdpResponseStreamTracker.fail, if_neg (by simp [hopen.1, hopen.2])]
  exact ⟨rfl, fun h => nomatch h⟩

variable (limits) in
/-- Consuming data leaves the queue of live data alone while the response streams. -/
theorem Streams.sameQueue (h : Streams r drained serial t) (data : Text) :
    SameQueue t (t.consumeBase64 limits data) := by
  have hfail : ∀ consumer failure, SameQueue t
      (CdpResponseStreamTracker.fail failure { t with consumer := some consumer }) :=
    fun consumer failure => by
      obtain ⟨hsettled, hqueue⟩ := fail_sameQueue (t := { t with consumer := some consumer })
        ⟨h.current.1, by simp [h.lifecycle]⟩ failure
      exact ⟨hsettled, hqueue⟩
  obtain ⟨consumer, hconsumer, -⟩ := h.shadows
  unfold CdpResponseStreamTracker.consumeBase64
  rw [hconsumer]
  dsimp only
  rcases consumer.pushBase64 limits data with ⟨kind | _, consumer'⟩
  · cases kind <;> exact hfail _ _
  · dsimp only
    split
    · exact ⟨rfl, fun h => nomatch h⟩
    · exact ⟨rfl, fun _ => rfl⟩

/-- The loop over the data that arrived while the activation was pending. -/
theorem Streams.consumePending (pending : List Text) (h : Streams r drained serial t) :
    Served r drained (serial.serveAll limits (pending.map .pushBase64)) false
        (CdpResponseStreamTracker.consumePending limits t pending) ∧
      (CdpResponseStreamTracker.consumePending limits t
        pending).transportSettledWhileActivationPending =
        t.transportSettledWhileActivationPending := by
  induction pending generalizing serial t with
  | nil => exact ⟨.inl ⟨rfl, h⟩, rfl⟩
  | cons data pending ih =>
    have hsame := h.sameQueue limits data
    unfold CdpResponseStreamTracker.consumePending
    rw [List.map_cons, serveAll_cons]
    dsimp only
    rcases h.consumeBase64 limits data with ⟨-, hstreams⟩ | hends | hoverflows
    · rw [if_neg (by simp [hstreams.not_terminal])]
      obtain ⟨hserved, hsettled⟩ := ih hstreams
      exact ⟨hserved, hsettled.trans hsame.settled⟩
    · rw [if_pos hends.isTerminal]
      exact ⟨.inr (.inl (hends.serveAll limits _ _)), hsame.settled⟩
    · rw [if_pos (by simp [isTerminal, hoverflows.lifecycle])]
      exact ⟨.inr (.inr hoverflows), hsame.settled⟩

/-- The serial consumer is finished if the transport settled. -/
theorem Served.finish (h : Served r drained serial false t)
    (hsettled : t.transportSettledWhileActivationPending = settled) :
    Served r drained (serial.serveAll limits (if settled then [.finish] else [])) settled
      (if t.transportSettledWhileActivationPending && t.lifecycle == .STREAMING then
        t.finishConsumer limits else t) := by
  rw [hsettled]
  cases settled with
  | false => simpa using h
  | true =>
    show Served r drained (serial.serveAll limits [.finish]) true
      (if (t.lifecycle == .STREAMING) = true then t.finishConsumer limits else t)
    rcases h with ⟨-, hstreams⟩ | hends | hoverflows
    · rw [if_pos (by rw [hstreams.lifecycle]; rfl)]
      exact hstreams.finishConsumer
    · rw [if_neg (by rw [hends.lifecycle]; split <;> simp)]
      exact .inr (.inl (hends.serveAll limits _ _))
    · rw [if_neg (by simp [hoverflows.lifecycle])]
      exact .inr (.inr hoverflows)

variable (limits) in
/-- Replaying what was queued, and the settlement if it was deferred. -/
theorem Served.replayPending (h : Served r drained serial false t) {data : List Text}
    (hqueue : t.lifecycle = STREAMING → t.pendingLiveData = data)
    (hsettled : t.transportSettledWhileActivationPending = settled) :
    Served r drained
      (serial.serveAll limits (data.map .pushBase64 ++ if settled then [.finish] else [])) settled
      (t.replayPending limits) := by
  unfold CdpResponseStreamTracker.replayPending
  rcases h with ⟨-, hstreams⟩ | hends | hoverflows
  · rw [if_neg (c := t.isTerminal = true) (by simp [hstreams.not_terminal]),
      hqueue hstreams.lifecycle, serveAll_append]
    have hreplayed : Streams r drained serial
        { t with pendingLiveData := [], pendingLiveBase64Chars := 0 } :=
      ⟨hstreams.current, hstreams.lifecycle, hstreams.activated, hstreams.pending,
        hstreams.incomplete, hstreams.shadows⟩
    obtain ⟨hserved, hdeferred⟩ := hreplayed.consumePending data
    exact hserved.finish (hdeferred.trans hsettled)
  · rw [if_pos (c := t.isTerminal = true) hends.isTerminal]
    have hends' := hends.serveAll limits
      (data.map .pushBase64 ++ if settled then [.finish] else []) settled
    exact .inr (.inl ⟨hends'.current, hends'.lifecycle, hends'.pending, hends'.ended, hends'.empty,
      hends'.drained_eq⟩)
  · rw [if_pos (c := t.isTerminal = true) (by simp [isTerminal, hoverflows.lifecycle])]
    exact .inr (.inr ⟨hoverflows.current, hoverflows.lifecycle, hoverflows.failure,
      hoverflows.pending⟩)

/-- The data that came with the activation goes first. -/
theorem Streams.consumeBuffered (h : Streams r [] {} t) (bufferedData : Option Text) :
    Served r [] (serveAll limits {} (bufferedData.toList.map .pushBase64)) false
        (t.consumeBuffered limits bufferedData) ∧
      SameQueue t (t.consumeBuffered limits bufferedData) := by
  unfold CdpResponseStreamTracker.consumeBuffered
  cases bufferedData with
  | none => exact ⟨.inl ⟨rfl, h⟩, rfl, fun _ => rfl⟩
  | some data =>
    dsimp only
    split
    · exact ⟨h.consumeBase64 limits data, h.sameQueue limits data⟩
    · rename_i hempty
      obtain rfl : data = [] := by simpa using hempty
      refine ⟨.inl ⟨rfl, ?_⟩, rfl, fun _ => rfl⟩
      simpa [serve_empty] using h

/-- The serial consumer is shadowed from the start. -/
theorem shadows_initial : Shadows [] {} {} := ⟨⟨0, ⟨Nat.le_refl 0, fun _ => rfl⟩, rfl⟩, rfl, rfl⟩

/-- The activation resolves: everything that was queued is replayed in order. -/
theorem Waits.activated (h : Waits r data settled run) (bufferedData : Option Text) :
    ∃ run', run.step limits (.activated r bufferedData) = some run' ∧
      Served r run'.drained
        (serveAll limits {} (bufferedData.toList.map .pushBase64 ++
          (data.map .pushBase64 ++ if settled then [.finish] else []))) settled run'.tracker := by
  obtain ⟨chars, rfl⟩ := h
  refine ⟨_, by simp only [TrackerRun.step, List.mem_singleton, if_true]; rfl, ?_⟩
  have hstreams : Streams r [] {}
      { selectedRequestId := some r
        lifecycle := STREAMING
        activated := true
        transportSettledWhileActivationPending := settled
        pendingLiveData := data
        pendingLiveBase64Chars := chars
        activations := [r].erase r } :=
    ⟨⟨rfl, rfl⟩, rfl, rfl, rfl, rfl, _, rfl, shadows_initial⟩
  obtain ⟨hserved, hsettled, hqueue⟩ := hstreams.consumeBuffered bufferedData
  rw [serveAll_append]
  have hreplayed := hserved.replayPending limits hqueue hsettled
  simpa [completeActivation, isCurrent] using hreplayed

/-! ## Whole traces -/

/-- The activation is pending: live data is queued, or too much of it came. -/
theorem exec_pending {as : List TrackerAction}
    (h : Waits r data settled run ∨ Overflows r run.tracker ∧ run.tracker.activations = [r])
    (horderly : Orderly r settled as) :
    ∃ run', Machine.exec (TrackerRun.step limits) run as = some run' ∧
      (Waits r (data ++ as.flatMap (dataOf r)) (settled || as.any (settles r)) run' ∨
        Overflows r run'.tracker ∧ run'.tracker.activations = [r]) := by
  induction as generalizing run data settled with
  | nil => exact ⟨run, rfl, by simpa using h⟩
  | cons a as ih =>
    obtain ⟨hobserves, hfailed, -, hrest⟩ := horderly
    obtain ⟨run', hstep, hnext⟩ : ∃ run', run.step limits a = some run' ∧
        (Waits r (data ++ a.dataOf r) (settled || a.settles r) run' ∨
          Overflows r run'.tracker ∧ run'.tracker.activations = [r]) := by
      rcases h with hwaits | ⟨hoverflows, hactivations⟩
      · exact hwaits.step hobserves hfailed
      · obtain ⟨run', hstep, hoverflows', hsame⟩ :=
          hoverflows.step hobserves hfailed
        exact ⟨run', hstep, .inr ⟨hoverflows', hsame.trans hactivations⟩⟩
    obtain ⟨run'', hexec, hend⟩ := ih hnext hrest
    refine ⟨run'', Machine.exec_cons_eq_some.mpr ⟨run', hstep, hexec⟩, ?_⟩
    simpa [List.append_assoc, Bool.or_assoc] using hend

/-- Any orderly run after the activation keeps the tracker beside the serial consumer. -/
theorem Served.exec {as : List TrackerAction}
    (h : Served r run.drained serial settled run.tracker) (horderly : Orderly r settled as) :
    ∃ run', Machine.exec (TrackerRun.step limits) run as = some run' ∧
      Served r run'.drained (serial.serveAll limits (as.flatMap (calls r)))
        (settled || as.any (settles r)) run'.tracker := by
  induction as generalizing run serial settled with
  | nil => exact ⟨run, rfl, by simpa using h⟩
  | cons a as ih =>
    obtain ⟨hobserves, hfailed, hafter, hrest⟩ := horderly
    obtain ⟨run', hstep, hnext⟩ := h.step hobserves hfailed hafter
    obtain ⟨run'', hexec, hend⟩ := ih hnext hrest
    refine ⟨run'', Machine.exec_cons_eq_some.mpr ⟨run', hstep, hexec⟩, ?_⟩
    simpa [serveAll_append, Bool.or_assoc] using hend

/-- Nothing happens before `r` is selected. -/
theorem exec_early (early : List TrackerAction)
    (hearly : ∀ a ∈ early, a.observes ∧ ∀ requestId, a ≠ .select requestId) :
    Machine.exec (TrackerRun.step limits) {} early = some {} := by
  induction early with
  | nil => rfl
  | cons a early ih =>
    obtain ⟨hobserves, hselect⟩ := hearly a List.mem_cons_self
    refine Machine.exec_cons_eq_some.mpr
      ⟨{}, ?_, ih fun a ha => hearly a (List.mem_cons_of_mem _ ha)⟩
    cases a with
    | select requestId => exact absurd rfl (hselect requestId)
    | begin | settled | drain => rfl
    | data requestId data => cases data <;> rfl
    | activated _ _ | activationRejected _ | fail _ | discard | dispose => cases hobserves

/-- Nothing that matters happens between the selection and `begin`. -/
theorem exec_between (between : List TrackerAction)
    (hbetween : ∀ a ∈ between,
      a.observes ∧ a.settles r = false ∧ ∀ network, a ≠ .begin r network) :
    Machine.exec (TrackerRun.step limits) { tracker := { selectedRequestId := some r } } between =
      some { tracker := { selectedRequestId := some r } } := by
  have hcurrent : Current r { selectedRequestId := some r } := ⟨rfl, rfl⟩
  induction between with
  | nil => rfl
  | cons a between ih =>
    obtain ⟨hobserves, hsettles, hbegin⟩ := hbetween a List.mem_cons_self
    refine Machine.exec_cons_eq_some.mpr
      ⟨_, ?_, ih fun a ha => hbetween a (List.mem_cons_of_mem _ ha)⟩
    cases a with
    | select requestId => simp only [TrackerRun.step, hcurrent.select]
    | begin requestId network =>
      have hr : requestId ≠ r := by
        rintro rfl
        exact hbegin network rfl
      simp only [TrackerRun.step, hcurrent.begin network fun h => absurd h hr]
    | data requestId data => cases data <;> simp [TrackerRun.step, onData]
    | settled requestId failed =>
      have hr : requestId ≠ r := by simpa [settles] using hsettles
      simp [TrackerRun.step, onTransportSettled, hcurrent.isCurrent, hr]
    | drain => rfl
    | activated _ _ | activationRejected _ | fail _ | discard | dispose => cases hobserves

/-- Every race has a run, and it ends beside the serial consumer. -/
theorem exec_race (race : ActivationRace r) :
    ∃ run, Machine.exec (TrackerRun.step limits) {} race.trace = some run ∧
      Served r run.drained (ConsumerRun.serial limits race.data race.transportSettled)
        race.transportSettled run.tracker := by
  obtain ⟨hpending, hlive⟩ := orderly_append race.orderly
  have hwaits : Waits r [] false
      { tracker := { selectedRequestId := some r, activationPending := true, activations := [r] } } :=
    ⟨0, rfl⟩
  -- What comes before `begin` leaves no more than the selection.
  have hbegun : ∀ more, Machine.exec (TrackerRun.step limits) {}
      (race.early ++ .select r :: race.between ++ .begin r .promises :: more) =
      Machine.exec (TrackerRun.step limits)
        { tracker := { selectedRequestId := some r, activationPending := true, activations := [r] } }
        more := by
    intro more
    rw [Machine.exec_append, Machine.exec_append, exec_early _ race.early_observes,
      Option.bind_some, Machine.exec_cons]
    show (Machine.exec _ ({ tracker := { selectedRequestId := some r } } : TrackerRun)
      race.between).bind _ = _
    rw [exec_between _ race.between_observes, Option.bind_some, Machine.exec_cons]
    simp [TrackerRun.step, begin, isCurrent]
  obtain ⟨waiting, hwaiting, hphase⟩ := exec_pending (.inl hwaits) hpending
  obtain ⟨answered, hanswered, hserved⟩ : ∃ answered,
      waiting.step limits (.activated r race.bufferedData) = some answered ∧
        Served r answered.drained (serveAll limits {} (race.bufferedData.toList.map .pushBase64 ++
          race.pending.flatMap (calls r))) (race.pending.any (settles r)) answered.tracker := by
    -- The answer finds the tracker waiting, or overflowed: both ways it ends beside the serial
    -- consumer.
    rcases hphase with hwaits | ⟨hoverflows, hactivations⟩
    · rw [(calls_of_orderly hpending).1]
      simpa using hwaits.activated race.bufferedData
    · refine ⟨_, by simp only [TrackerRun.step, hactivations, List.mem_singleton, if_true]; rfl, ?_⟩
      refine .inr (.inr ?_)
      have hcurrent := hoverflows.current
      simp only [completeActivation]
      rw [if_neg (by simp [isCurrent, hcurrent.1, hcurrent.2]), if_pos (by simp [hoverflows.lifecycle])]
      exact ⟨hcurrent, hoverflows.lifecycle, hoverflows.failure, rfl⟩
  obtain ⟨run, hrun, hend⟩ := hserved.exec hlive
  refine ⟨run, ?_, ?_⟩
  · rw [ActivationRace.trace, List.append_assoc, List.cons_append, hbegun, Machine.exec_append,
      hwaiting, Option.bind_some, Machine.exec_cons, hanswered, Option.bind_some, hrun]
  · -- The serial consumer is called with the pending data, and then with the live data.
    have hcalls := (calls_of_orderly race.orderly).1
    rw [ConsumerRun.serial, ActivationRace.data, ActivationRace.transportSettled, List.map_append,
      List.append_assoc, ← hcalls, List.flatMap_append, ← List.append_assoc, serveAll_append]
    simpa using hend

/-- The order of activation, data, settlement and drains does not show. Unless a buffer overflows,
the events drained from the tracker, together with those a last drain brings out, are those of a
single consumer fed the buffered data and then the live data of the request, and finished if the
transport settled; once it has settled, the lifecycle says whether that consumer completed. In any
trace at all the lifecycle advances only. -/
theorem activation_race_invisible (limits : ConsumerLimits) (r : RequestId) :
    (∀ race : ActivationRace r, ∃ run,
      Machine.exec (TrackerRun.step limits) {} race.trace = some run ∧
      (run.tracker.failure ≠ some .BUFFER_OVERFLOW →
        run.drained ++ run.tracker.drain.1 =
          (ConsumerRun.serial limits race.data race.transportSettled).drained ∧
        (race.transportSettled = true → run.tracker.lifecycle =
          if (ConsumerRun.serial limits race.data race.transportSettled).consumer.completedState then
            COMPLETED
          else FAILED))) ∧
    (∀ actions a run run', Machine.exec (TrackerRun.step limits) {} actions = some run →
      run.step limits a = some run' →
      Advances run.tracker.lifecycle run'.tracker.lifecycle ∧
        (run.tracker.lifecycle = COMPLETED ∨ run.tracker.lifecycle = FAILED →
          run'.tracker.lifecycle = run.tracker.lifecycle)) := by
  refine ⟨fun race => ?_, fun actions a run run' hrun hstep => ?_⟩
  · obtain ⟨run, hrun, hserved⟩ := exec_race race
    refine ⟨run, hrun, fun hbound => ?_⟩
    rcases hserved with ⟨hopen, hstreams⟩ | hends | hoverflows
    · obtain ⟨consumer, hconsumer, hshadows⟩ := hstreams.shadows
      refine ⟨?_, fun hsettled => ?_⟩
      · rw [CdpResponseStreamTracker.drain, hconsumer]
        dsimp only
        rw [drain_eq]
        exact hshadows.drained_eq
      · rw [hopen] at hsettled
        cases hsettled
    · obtain ⟨consumer, hconsumer, hdrained⟩ := hends.drained_eq
      refine ⟨?_, fun _ => hends.lifecycle⟩
      rw [CdpResponseStreamTracker.drain, hconsumer]
      dsimp only
      rw [drain_eq]
      exact hdrained
    · exact absurd hoverflows.failure hbound
  · have hadvances := (step_advances (exec_coherent hrun) hstep).2
    exact ⟨hadvances, hadvances.final⟩

/-- The answer comes last: after the end of the stream has arrived as live data, and after the
transport has settled. It brings the delta that came before. -/
def lateAnswer : ActivationRace "r" where
  early := [.begin "r" .promises, .data "r" (some (Text.of "bG9zdA=="))]
  between := [.data "q" (some (Text.of "bG9zdA==")), .drain]
  pending := [.data "r" (some (Text.of "ZGF0YTogW0RPTkVdCgo=")), .drain, .settled "r" false,
    .settled "q" true]
  bufferedData := some (Text.of "ZXZlbnQ6IGRlbHRhCmRhdGE6IHsidiI6ImhpIn0KCg==")
  live := [.drain, .data "q" none]
  early_observes := by simp [TrackerAction.observes]
  between_observes := by simp [TrackerAction.observes, settles]
  orderly := by simp [Orderly, TrackerAction.observes, dataOf, settles]

/-- Nothing of this shows: the delta and the end of the stream are drained in order, and the
lifecycle is that of the serial consumer. -/
theorem activation_race_invisible_lateAnswer :
    ∃ run, Machine.exec (TrackerRun.step {}) {} lateAnswer.trace = some run ∧
      run.drained ++ run.tracker.drain.1 = [.textDelta (Text.of "hi"), .completed] ∧
      run.tracker.lifecycle = COMPLETED := by
  obtain ⟨run, hrun, hserial⟩ := (activation_race_invisible {} "r").1 lateAnswer
  have hbound : ∀ run ∈ Machine.exec (TrackerRun.step {}) {} lateAnswer.trace,
      run.tracker.failure ≠ some .BUFFER_OVERFLOW := by
    decide +kernel
  obtain ⟨hdrained, hlifecycle⟩ := hserial (hbound run hrun)
  have hevents : (ConsumerRun.serial {} lateAnswer.data lateAnswer.transportSettled).drained =
      [.textDelta (Text.of "hi"), .completed] := by
    decide +kernel
  have hcompleted : (ConsumerRun.serial {} lateAnswer.data
      lateAnswer.transportSettled).consumer.completedState = true := by
    decide +kernel
  have hsettled : lateAnswer.transportSettled = true := by decide +kernel
  refine ⟨run, hrun, hdrained.trans hevents, ?_⟩
  rw [hlifecycle hsettled, if_pos hcompleted]

end CdpResponseStreamTracker

end Threadwire
