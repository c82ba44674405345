import Threadwire.Effect.Simulation
import Threadwire.Response.ConsumerRefinement

/-!
# A consumer with a longer queue

The queue of a consumer is read by its limits only. So a consumer that has not been drained for a
while, and still stays within its limits, parses as one whose older events are gone already.
-/

namespace Threadwire

namespace ResponseStreamConsumer

open Effect

/-- The text in the queue is counted, by `queued` at least, and the text in an empty queue is
none. -/
def Counted (queued : ℕ) (s : ResponseStreamConsumer) : Prop :=
  s.queuedTextChars ≤ queued ∧ (s.events = [] → s.queuedTextChars = 0)

/-- The first consumer has the events `older` in front of the second one's queue. -/
def Longer (older : List NormalizedResponseStreamEvent) (s s' : ResponseStreamConsumer) : Prop :=
  ∃ queued, Counted queued s' ∧
    s = { s' with events := older ++ s'.events, queuedTextChars := queued }

/-- The second consumer does what the first does, unless the first overflows. -/
def Keeps {α : Type} (x : ConsumerM α) : Prop :=
  ∀ older s s', Longer older s s' →
    Simulates (Longer older) (· = .bufferOverflow) x x s s'

variable {limits : ConsumerLimits}

/-- A value does not depend on the queue. -/
theorem keeps_pure {α : Type} (a : α) : Keeps (pure a) := fun _ _ _ h => simulates_pure a h

/-- One part after the other. -/
theorem keeps_bind {α β : Type} {x : ConsumerM α} {f : α → ConsumerM β} (hx : Keeps x)
    (hf : ∀ a, Keeps (f a)) : Keeps (x >>= f) :=
  fun older s s' h => simulates_bind (hx older s s' h) fun a t t' h' => hf a older t t' h'

/-- The bound of the pending text may overflow, and then nothing more is said. -/
theorem keeps_assertPendingTextBound : Keeps (assertPendingTextBound limits) := by
  rintro older s s' h
  obtain ⟨queued, hle, rfl⟩ := id h
  exact simulates_get_bind (simulates_ite Iff.rfl (fun _ => simulates_lost rfl)
    fun _ => simulates_pure () h)

/-- The one place where the queues are looked at: what fits into the longer one fits into the
shorter one. -/
theorem keeps_emit (event : NormalizedResponseStreamEvent) : Keeps (emit limits event) := by
  rintro older s s' ⟨queued, hle, rfl⟩
  refine simulates_get_bind ?_
  by_cases hfull : limits.maxQueuedEvents ≤ (older ++ s'.events).length
  · rw [if_pos hfull]
    exact simulates_lost rfl
  rw [if_neg hfull, if_neg (by rw [List.length_append] at hfull; omega)]
  cases event with
  | completed =>
    exact simulates_set ⟨queued, ⟨hle.1, by simp⟩, by simp⟩
  | textDelta text =>
    show Simulates _ _ (if limits.maxQueuedTextChars < queued + text.length then _ else _) _ _ _
    by_cases htext : limits.maxQueuedTextChars < queued + text.length
    · rw [if_pos htext]
      exact simulates_lost rfl
    rw [if_neg htext]
    show Simulates _ _ _
      (if limits.maxQueuedTextChars < s'.queuedTextChars + text.length then _ else _) _ _
    rw [if_neg (by have := hle.1; omega)]
    exact simulates_set ⟨queued + text.length, ⟨by simpa using hle.1, by simp⟩, by simp⟩

/-- Patches are emitted one by one. -/
theorem keeps_emitPatches (patches : List Json.Value) : Keeps (emitPatches limits patches) := by
  induction patches with
  | nil => exact keeps_pure ()
  | cons patch patches ih =>
    refine keeps_bind ?_ fun _ => ih
    unfold emitPatch
    cases patchText patch with
    | some text => exact keeps_emit _
    | none => exact keeps_pure ()

/-- A delta emits its text or its patches, or nothing. -/
theorem keeps_emitDelta (parsed : Json.Value) : Keeps (emitDelta limits parsed) := by
  unfold emitDelta
  split
  · exact keeps_pure ()
  · split
    · exact keeps_emit _
    · exact keeps_emitPatches _
    · exact keeps_pure ()

/-- The record is reset. -/
theorem keeps_resetRecord : Keeps resetRecord := by
  rintro older s s' ⟨queued, hle, rfl⟩
  exact simulates_modify ⟨queued, hle, rfl⟩

/-- A record is dispatched by its event. -/
theorem keeps_dispatchRecord : Keeps (dispatchRecord limits) := by
  intro older s s' h
  obtain ⟨queued, hle, rfl⟩ := id h
  refine simulates_get_bind (simulates_ite Iff.rfl (fun _ => keeps_resetRecord _ _ _ h) fun _ => ?_)
  refine simulates_bind (simulates_set ⟨queued, hle, rfl⟩) fun _ t t' ht => ?_
  refine simulates_ite Iff.rfl (fun _ => keeps_resetRecord _ _ _ ht) fun _ => ?_
  refine simulates_bind (keeps_resetRecord _ _ _ ht) fun _ t t' ht => ?_
  refine simulates_ite Iff.rfl (fun _ => ?_) fun _ => ?_
  · refine simulates_bind (keeps_emit _ _ _ _ ht) fun _ t t' ht => ?_
    obtain ⟨queued, hle, rfl⟩ := ht
    exact simulates_modify ⟨queued, hle, rfl⟩
  · refine simulates_ite Iff.rfl (fun _ => simulates_pure () ht) fun _ => ?_
    dsimp only
    cases Json.parse (joinLines s'.dataLines) with
    | none => exact simulates_throw _ ht
    | some parsed => exact keeps_emitDelta _ _ _ _ ht

/-- A line is part of a record, or dispatches it. -/
theorem keeps_consumeLine (line : Text) : Keeps (consumeLine limits line) := by
  intro older s s' h
  obtain ⟨queued, hle, rfl⟩ := id h
  refine simulates_get_bind (simulates_ite Iff.rfl (fun _ => simulates_pure () h) fun _ => ?_)
  refine simulates_ite Iff.rfl (fun _ => keeps_dispatchRecord _ _ _ h) fun _ => ?_
  refine simulates_ite Iff.rfl (fun _ => simulates_pure () h) fun _ => ?_
  refine simulates_ite Iff.rfl (fun _ => ?_) fun _ => ?_
  · refine simulates_bind (simulates_set ⟨queued, hle, rfl⟩) fun _ t t' ht => ?_
    exact keeps_assertPendingTextBound _ _ _ ht
  · refine simulates_ite Iff.rfl (fun _ => ?_) fun _ => simulates_pure () h
    refine simulates_ite Iff.rfl (fun _ => simulates_lost rfl) fun _ => ?_
    refine simulates_bind (simulates_set ⟨queued, hle, rfl⟩) fun _ t t' ht => ?_
    exact keeps_assertPendingTextBound _ _ _ ht

/-- The lines of what was decoded. -/
theorem keeps_pushLines (fuel : ℕ) : Keeps (pushLines limits fuel) := by
  induction fuel with
  | zero => exact keeps_pure ()
  | succ fuel ih =>
    intro older s s' h
    obtain ⟨queued, hle, rfl⟩ := id h
    refine simulates_get_bind (simulates_ite Iff.rfl (fun _ => simulates_pure () h) fun _ => ?_)
    dsimp only
    cases s'.textBuffer.idxOf? LF with
    | none => exact simulates_pure () h
    | some newlineIndex =>
      refine simulates_bind (simulates_set ⟨queued, hle, rfl⟩) fun _ t t' ht => ?_
      refine simulates_bind (keeps_consumeLine _ _ _ _ ht) fun _ t t' ht => ?_
      exact keeps_bind keeps_assertPendingTextBound (fun _ => ih) _ _ _ ht

/-- What was decoded is cut into lines. -/
theorem keeps_pushDecoded (decoded : Text) : Keeps (pushDecoded limits decoded) := by
  intro older s s' h
  obtain ⟨queued, hle, rfl⟩ := id h
  refine simulates_get_bind (simulates_ite Iff.rfl (fun _ => simulates_pure () h) fun _ => ?_)
  refine simulates_bind (simulates_set ⟨queued, hle, rfl⟩) fun _ t t' ht => ?_
  exact keeps_bind keeps_assertPendingTextBound (fun _ => keeps_pushLines _) _ _ _ ht

/-- A chunk is decoded first. -/
theorem keeps_pushBase64 (encoded : Text) : Keeps (pushBase64 limits encoded) := by
  intro older s s' h
  obtain ⟨queued, hle, rfl⟩ := id h
  refine simulates_get_bind (simulates_ite Iff.rfl (fun _ => simulates_pure () h) fun _ => ?_)
  refine simulates_ite Iff.rfl (fun _ => simulates_lost rfl) fun _ => ?_
  refine simulates_ite Iff.rfl (fun _ => simulates_throw _ h) fun _ => ?_
  dsimp only
  cases s'.decoder.decodeStream (Base64.decode encoded) with
  | none => exact simulates_throw _ h
  | some p =>
    refine simulates_bind (simulates_set ⟨queued, hle, rfl⟩) fun _ t t' ht => ?_
    exact keeps_pushDecoded _ _ _ _ ht

/-- The rest is a line without its end. -/
theorem keeps_consumeTail : Keeps (consumeTail limits) := by
  intro older s s' h
  obtain ⟨queued, hle, rfl⟩ := id h
  refine simulates_get_bind (simulates_ite Iff.rfl (fun _ => ?_) fun _ => simulates_pure () h)
  refine simulates_bind (simulates_set ⟨queued, hle, rfl⟩) fun _ t t' ht => ?_
  exact keeps_consumeLine _ _ _ _ ht

/-- At the end the rest and the open record are consumed. -/
theorem keeps_finish : Keeps (finish limits) := by
  intro older s s' h
  obtain ⟨queued, hle, rfl⟩ := id h
  refine simulates_get_bind (simulates_ite Iff.rfl (fun _ => simulates_pure () h) fun _ => ?_)
  dsimp only
  cases s'.decoder.decodeEnd with
  | none => exact simulates_throw _ h
  | some p =>
    refine simulates_bind (simulates_set ⟨queued, hle, rfl⟩) fun _ t t' ht => ?_
    exact keeps_bind (keeps_pushDecoded _)
      (fun _ => keeps_bind keeps_consumeTail fun _ => keeps_dispatchRecord) _ _ _ ht

/-! ## A failure of parsing leaves the stream incomplete -/

/-- A computation that ends in a parse failure has not completed the stream. -/
def FailsOpen {α : Type} (x : ConsumerM α) : Prop :=
  ∀ s, wp x (fun _ _ => True) (fun kind s' => kind = .parseFailed → s'.completedState = false) s

/-- Two parts that fail open. -/
theorem failsOpen_bind {α β : Type} {x : ConsumerM α} {f : α → ConsumerM β} (hx : FailsOpen x)
    (hf : ∀ a, FailsOpen (f a)) : FailsOpen (x >>= f) := by
  intro s
  rw [wp_bind]
  exact wp_mono (hx s) (fun a s' _ => hf a s') fun _ _ h => h

/-- A part that only queues has not completed the stream. -/
theorem Queues.failsOpen {events : List NormalizedResponseStreamEvent} {x : ConsumerM Unit}
    (h : Queues events x) : FailsOpen x :=
  fun s => wp_mono (h s) (fun _ _ _ => trivial) fun kind _ hkind hfailed => by
    rw [hkind] at hfailed
    cases hfailed

/-- The bound of the pending text is no end. -/
theorem failsOpen_assertPendingTextBound : FailsOpen (assertPendingTextBound limits) :=
  fun _ => wp_mono wp_assertPendingTextBound (fun _ _ _ => trivial) fun kind _ hkind hfailed => by
    rw [hkind] at hfailed
    cases hfailed

/-- A record completes the stream only as its last act. -/
theorem failsOpen_dispatchRecord : FailsOpen (dispatchRecord limits) := by
  intro s
  simp only [dispatchRecord, resetRecord, wp_bind, wp_get, wp_ite, wp_set, wp_modify]
  split
  · trivial
  rename_i hincomplete
  split
  · trivial
  split
  · exact wp_mono ((queues_emit _).failsOpen _) (fun _ _ _ => trivial) fun _ _ h => h
  split
  · trivial
  cases Json.parse (joinLines s.dataLines) with
  | none => exact fun _ => by simpa using hincomplete
  | some parsed => exact (queues_emitDelta parsed).failsOpen _

/-- A line that fails has not completed it. -/
theorem failsOpen_consumeLine (line : Text) : FailsOpen (consumeLine limits line) := by
  intro s
  simp only [consumeLine, wp_bind, wp_get, wp_ite, wp_set, wp_throw]
  split
  · trivial
  split
  · exact failsOpen_dispatchRecord s
  split
  · trivial
  split
  · exact failsOpen_assertPendingTextBound _
  split
  · split
    · exact fun hkind => by cases hkind
    · exact failsOpen_assertPendingTextBound _
  · trivial

/-- The lines of a chunk. -/
theorem failsOpen_pushLines (fuel : ℕ) : FailsOpen (pushLines limits fuel) := by
  induction fuel with
  | zero => exact fun _ => trivial
  | succ fuel ih =>
    intro s
    simp only [pushLines, wp_bind, wp_get, wp_ite]
    split
    · trivial
    cases s.textBuffer.idxOf? LF with
    | none => trivial
    | some newlineIndex =>
      exact failsOpen_bind (failsOpen_consumeLine _)
        (fun _ => failsOpen_bind failsOpen_assertPendingTextBound fun _ => ih) _

/-- What was decoded. -/
theorem failsOpen_pushDecoded (decoded : Text) : FailsOpen (pushDecoded limits decoded) := by
  intro s
  simp only [pushDecoded, wp_bind, wp_get, wp_ite]
  split
  · trivial
  · exact failsOpen_bind failsOpen_assertPendingTextBound (fun _ => failsOpen_pushLines _) _

/-- A chunk that does not decode has completed nothing. -/
theorem failsOpen_pushBase64 (encoded : Text) : FailsOpen (pushBase64 limits encoded) := by
  intro s
  simp only [pushBase64, wp_bind, wp_get, wp_ite, wp_throw]
  split
  · trivial
  rename_i hopen
  have hincomplete : s.completedState = false := by simpa using fun h => hopen (.inr h)
  split
  · exact fun hkind => by cases hkind
  split
  · exact fun _ => hincomplete
  cases s.decoder.decodeStream (Base64.decode encoded) with
  | none => exact fun _ => hincomplete
  | some p => exact failsOpen_pushDecoded _ _

/-- The rest at the end. -/
theorem failsOpen_consumeTail : FailsOpen (consumeTail limits) := by
  intro s
  simp only [consumeTail, wp_bind, wp_get, wp_ite]
  split
  · exact failsOpen_consumeLine _ _
  · trivial

/-- `finish` completes the stream after its last act, or fails. -/
theorem failsOpen_finish : FailsOpen (finish limits) := by
  intro s
  simp only [finish, wp_bind, wp_get, wp_ite]
  split
  · trivial
  rename_i hopen
  cases s.decoder.decodeEnd with
  | none => exact fun _ => by simpa using fun h => hopen (.inr h)
  | some p =>
    exact failsOpen_bind (failsOpen_pushDecoded _)
      (fun _ => failsOpen_bind failsOpen_consumeTail fun _ => failsOpen_dispatchRecord) _

/-! ## A consumer beside one that is drained after every call -/

namespace ConsumerRun

variable {run : ConsumerRun}

/-- Make a call and drain. -/
def serve (limits : ConsumerLimits) (run : ConsumerRun) (call : ConsumerCall) : ConsumerRun :=
  (run.perform limits call).perform limits .drain

/-- Make calls in order, draining after each. -/
def serveAll (limits : ConsumerLimits) (run : ConsumerRun) (calls : List ConsumerCall) :
    ConsumerRun :=
  calls.foldl (serve limits) run

@[simp] theorem serveAll_nil (run : ConsumerRun) : run.serveAll limits [] = run := rfl

@[simp] theorem serveAll_cons (run : ConsumerRun) (call : ConsumerCall)
    (calls : List ConsumerCall) :
    run.serveAll limits (call :: calls) = (run.serve limits call).serveAll limits calls := rfl

/-- Calls made in two lots. -/
theorem serveAll_append (run : ConsumerRun) (calls more : List ConsumerCall) :
    run.serveAll limits (calls ++ more) = (run.serveAll limits calls).serveAll limits more :=
  List.foldl_append

/-- A single consumer, drained after every call, that is fed the data in order and finished if
`settled`. -/
def serial (limits : ConsumerLimits) (data : List Text) (settled : Bool) : ConsumerRun :=
  serveAll limits {} (data.map .pushBase64 ++ if settled then [.finish] else [])

/-- Once the run has ended, nothing changes any more. -/
theorem serve_of_ended (hended : run.Ended) (hempty : run.consumer.events = [])
    (call : ConsumerCall) : run.serve limits call = run := by
  have hdrain : run.perform limits .drain = run := by
    rw [perform_drain]
    obtain ⟨consumer, drained, failure⟩ := run
    obtain ⟨decoder, events, queued⟩ := consumer
    cases hempty
    simp
  rcases hended.perform_eq call with hsame | rfl
  · rw [serve, hsame, hdrain]
  · rw [serve, hdrain, hdrain]

/-- A run that has ended does nothing more. -/
theorem serveAll_of_ended (hended : run.Ended) (hempty : run.consumer.events = [])
    (calls : List ConsumerCall) : run.serveAll limits calls = run := by
  induction calls with
  | nil => rfl
  | cons call calls ih => rw [serveAll_cons, serve_of_ended hended hempty, ih]

/-- An empty chunk says nothing. -/
theorem serve_empty : serve limits {} (.pushBase64 []) = {} := by
  have hpush : ResponseStreamConsumer.pushBase64 limits [] {} = (.ok (), {}) := by
    show (if false = true ∨ false = true then pure () else if limits.maxEncodedChunkChars < 0 then
      throw ResponseStreamConsumerFailureKind.bufferOverflow else _ : ConsumerM Unit) {} = _
    rw [if_neg (by simp), if_neg (Nat.not_lt_zero _)]
    rfl
  rw [serve, perform, hpush]
  rfl

end ConsumerRun

open ConsumerRun

/-- A consumer beside a run that is drained after every call: they differ in what is queued, and
what was drained from the consumer, with its queue, is what was drained from the run. -/
structure Shadows (drained : List NormalizedResponseStreamEvent) (consumer : ResponseStreamConsumer)
    (run : ConsumerRun) : Prop where
  longer : Longer consumer.events consumer run.consumer
  drained_eq : drained ++ consumer.events = run.drained
  open_ : run.failure = none

/-- How the run stands after it failed where the consumer did. -/
structure Halts (drained : List NormalizedResponseStreamEvent) (consumer : ResponseStreamConsumer)
    (run : ConsumerRun) : Prop where
  drained_eq : drained ++ consumer.events = run.drained
  empty : run.consumer.events = []
  failed : run.failure = some .parseFailed
  incomplete : run.consumer.completedState = false

variable {drained : List NormalizedResponseStreamEvent} {consumer : ResponseStreamConsumer}
  {run : ConsumerRun}

/-- They are completed, or not, at the same time. -/
theorem Longer.completedState_eq {older : List NormalizedResponseStreamEvent}
    {s s' : ResponseStreamConsumer} (h : Longer older s s') :
    s.completedState = s'.completedState := by
  obtain ⟨_, _, rfl⟩ := h
  rfl

/-- The run that is drained after every call has an empty queue. -/
theorem Shadows.empty (h : Shadows drained consumer run) : run.consumer.events = [] := by
  obtain ⟨_, _, heq⟩ := h.longer
  have hevents := congrArg ResponseStreamConsumer.events heq
  simpa using hevents

/-- What a call of the consumer says about the same call of the run. -/
def Beside (drained : List NormalizedResponseStreamEvent) (run : ConsumerRun) :
    Except ResponseStreamConsumerFailureKind Unit × ResponseStreamConsumer → Prop
  | (.error .bufferOverflow, _) => True
  | (.error .parseFailed, consumer) => Halts drained consumer run
  | (.ok (), consumer) => Shadows drained consumer run

/-- A drained consumer has the queue that is still longer than an empty one. -/
theorem Longer.emptied {older : List NormalizedResponseStreamEvent} {s s' : ResponseStreamConsumer}
    (h : Longer older s s') :
    s.events = older ++ s'.events ∧
      Longer s.events s { s' with
        events := [], queuedTextChars := if s'.events = [] then s'.queuedTextChars else 0 } := by
  obtain ⟨queued, hle, rfl⟩ := h
  refine ⟨rfl, queued, ?_, by simp⟩
  by_cases hempty : s'.events = []
  · simpa [Counted, hempty] using hle
  · simp [Counted, hempty]

/-- Draining the consumer. -/
theorem Shadows.drain (h : Shadows drained consumer run) :
    Shadows (drained ++ consumer.events) { consumer with
      events := [], queuedTextChars := if consumer.events = [] then consumer.queuedTextChars else 0 }
      run := by
  have hempty := h.empty
  obtain ⟨⟨queued, hle, heq⟩, hdrained, hopen⟩ := h
  have hcounted : Counted
      (if consumer.events = [] then consumer.queuedTextChars else 0) run.consumer := by
    refine ⟨?_, hle.2⟩
    rw [hle.2 hempty]
    exact Nat.zero_le _
  refine ⟨⟨_, hcounted, ?_⟩, by simpa using hdrained, hopen⟩
  rw [heq, hempty]
  simp

/-- A call that does not look at the queue says the same of both. -/
theorem Shadows.call {x : ConsumerM Unit} {call : ConsumerCall}
    (h : Shadows drained consumer run) (hkeeps : Keeps x) (hopen : FailsOpen x)
    (hcall : run.perform limits call = run.after (x run.consumer)) :
    Beside drained (run.serve limits call) (x consumer) := by
  have hincomplete := wp_apply (hopen consumer)
  rcases simulates_apply (hkeeps _ _ _ h.longer) with ⟨_, t, t', hx, hx', hlonger⟩ | ⟨kind, t, hx, hkind⟩
  · obtain ⟨hevents, hnext⟩ := hlonger.emptied
    rw [hx, serve, hcall, hx', perform_drain]
    exact ⟨hnext, by rw [hevents, ← List.append_assoc, h.drained_eq]; rfl, h.open_⟩
  · rw [hx] at hincomplete ⊢
    rcases hkind with rfl | ⟨t', hx', hlonger⟩
    · trivial
    cases kind with
    | bufferOverflow => trivial
    | parseFailed =>
      obtain ⟨hevents, -⟩ := hlonger.emptied
      rw [serve, hcall, hx', perform_drain]
      refine ⟨by rw [hevents, ← List.append_assoc, h.drained_eq]; rfl, rfl, rfl, ?_⟩
      exact hlonger.completedState_eq.symm.trans (hincomplete rfl)

variable (limits) in
/-- Feeding a chunk to a consumer and to its shadow. -/
theorem Shadows.pushBase64 (h : Shadows drained consumer run) (encoded : Text) :
    Beside drained (run.serve limits (.pushBase64 encoded))
      (ResponseStreamConsumer.pushBase64 limits encoded consumer) :=
  h.call (keeps_pushBase64 encoded) (failsOpen_pushBase64 encoded)
    (if_neg (by simp [h.open_]))

variable (limits) in
/-- Finishing a consumer and its shadow. -/
theorem Shadows.finish (h : Shadows drained consumer run) :
    Beside drained (run.serve limits .finish) (ResponseStreamConsumer.finish limits consumer) :=
  h.call keeps_finish failsOpen_finish (if_neg (by simp [h.open_]))

end ResponseStreamConsumer

end Threadwire
