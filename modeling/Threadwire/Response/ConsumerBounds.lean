import Mathlib.Algebra.GroupWithZero.Nat
import Threadwire.Effect.Maintains
import Threadwire.Machine.Runs
import Threadwire.Response.ResponseStreamConsumer

/-!
# The memory of a consumer is bounded

The consumer counts what it holds as it goes along. `WithinBounds` says that the counts are right and
within the limits, and every method keeps it, unless it throws.
-/

namespace Threadwire

/-- The text in the queue that an event accounts for. -/
def NormalizedResponseStreamEvent.textChars : NormalizedResponseStreamEvent → ℕ
  | .textDelta text => text.length
  | .completed => 0

namespace ResponseStreamConsumer

open Effect

/-- The counts are right, and nothing exceeds its limit. -/
structure WithinBounds (limits : ConsumerLimits) (s : ResponseStreamConsumer) : Prop where
  events : s.events.length ≤ limits.maxQueuedEvents
  queuedTextChars : s.queuedTextChars = (s.events.map (·.textChars)).sum
  queuedText : s.queuedTextChars ≤ limits.maxQueuedTextChars
  pendingDataChars : s.pendingDataChars = (joinLines s.dataLines).length
  pendingText : s.textBuffer.length + s.eventName.elim 0 List.length + s.pendingDataChars ≤
    limits.maxPendingTextChars
  dataLines : s.dataLines.length ≤ limits.maxPendingDataLines

variable {limits : ConsumerLimits} {s : ResponseStreamConsumer}

/-- A computation that keeps the bounds, unless it throws. -/
abbrev Bounded {α : Type} (limits : ConsumerLimits) (x : ConsumerM α) : Prop :=
  Maintains (WithinBounds limits) (fun _ _ => True) x

/-- The lines are joined by one character each. -/
theorem length_joinLines_cons (first second : Text) (lines : List Text) :
    (joinLines (first :: second :: lines)).length =
      first.length + 1 + (joinLines (second :: lines)).length := by
  rw [joinLines, List.intercalate_cons_cons, List.length_append, List.length_append]
  rfl

/-- One more line, with the line feed before it. -/
theorem length_joinLines_snoc (lines : List Text) (line : Text) :
    (joinLines (lines ++ [line])).length =
      (joinLines lines).length + line.length + if lines = [] then 0 else 1 := by
  induction lines with
  | nil => simp [joinLines]
  | cons first lines ih =>
    rw [if_neg (List.cons_ne_nil first lines)]
    cases lines with
    | nil =>
      have hsingle : (joinLines [first]).length = first.length := by simp [joinLines]
      have hline : (joinLines [line]).length = line.length := by simp [joinLines]
      rw [List.singleton_append, length_joinLines_cons, hsingle, hline]
      omega
    | cons second lines =>
      rw [if_neg (List.cons_ne_nil second lines)] at ih
      rw [List.cons_append, List.cons_append, length_joinLines_cons, length_joinLines_cons,
        ← List.cons_append, ih]
      omega

/-- Without a record there is less to count. -/
theorem WithinBounds.resetRecord (h : WithinBounds limits s) :
    WithinBounds limits { s with eventName := none, dataLines := [], pendingDataChars := 0 } :=
  ⟨h.events, h.queuedTextChars, h.queuedText, rfl,
    Nat.le_trans (Nat.le_trans (Nat.le_add_right _ _) (Nat.le_add_right _ _)) h.pendingText,
    Nat.zero_le _⟩

/-- So is a shorter text before the next line feed. -/
theorem WithinBounds.shorten (h : WithinBounds limits s) {text : Text}
    (htext : text.length ≤ s.textBuffer.length) : WithinBounds limits { s with textBuffer := text } :=
  ⟨h.events, h.queuedTextChars, h.queuedText, h.pendingDataChars,
    Nat.le_trans (Nat.add_le_add_right (Nat.add_le_add_right htext _) _) h.pendingText, h.dataLines⟩

/-- What is neither queued nor pending does not count. -/
theorem WithinBounds.of_eq {s' : ResponseStreamConsumer} (h : WithinBounds limits s)
    (hevents : s'.events = s.events) (hqueued : s'.queuedTextChars = s.queuedTextChars)
    (htext : s'.textBuffer = s.textBuffer) (hname : s'.eventName = s.eventName)
    (hlines : s'.dataLines = s.dataLines) (hpending : s'.pendingDataChars = s.pendingDataChars) :
    WithinBounds limits s' :=
  ⟨hevents ▸ h.events, by rw [hqueued, hevents, h.queuedTextChars], hqueued ▸ h.queuedText,
    by rw [hpending, hlines, h.pendingDataChars], by rw [htext, hname, hpending]; exact h.pendingText,
    hlines ▸ h.dataLines⟩

/-- The check of the pending text: what it lets through is within the limit. -/
theorem wp_assertPendingTextBound_within
    (h : s.textBuffer.length + s.eventName.elim 0 List.length + s.pendingDataChars ≤
      limits.maxPendingTextChars → WithinBounds limits s) :
    wp (assertPendingTextBound limits) (fun _ => WithinBounds limits) (fun _ _ => True) s := by
  simp only [assertPendingTextBound, wp_bind, wp_get, wp_ite, wp_throw, wp_pure]
  split
  · trivial
  · exact h (by omega)

/-- The bound of the pending text is what is tested. -/
theorem bounded_assertPendingTextBound : Bounded limits (assertPendingTextBound limits) :=
  fun _ h => wp_assertPendingTextBound_within fun _ => h

/-- An event is counted before it is queued. -/
theorem bounded_emit (event : NormalizedResponseStreamEvent) : Bounded limits (emit limits event) := by
  intro s h
  simp only [emit, wp_bind, wp_get, wp_ite, wp_throw]
  split
  · trivial
  rename_i hroom
  have hevents : (s.events ++ [event]).length ≤ limits.maxQueuedEvents := by
    rw [List.length_append, List.length_singleton]
    omega
  cases event with
  | completed =>
    exact ⟨hevents, by simp [h.queuedTextChars, NormalizedResponseStreamEvent.textChars],
      h.queuedText, h.pendingDataChars, h.pendingText, h.dataLines⟩
  | textDelta text =>
    rw [wp_ite]
    split
    · trivial
    · exact ⟨hevents, by simp [h.queuedTextChars, NormalizedResponseStreamEvent.textChars],
        by dsimp only; omega, h.pendingDataChars, h.pendingText, h.dataLines⟩

/-- Patch by patch. -/
theorem bounded_emitPatches (patches : List Json.Value) : Bounded limits (emitPatches limits patches) := by
  induction patches with
  | nil => exact maintains_pure ()
  | cons patch patches ih =>
    refine Maintains.bind ?_ fun _ => ih
    unfold emitPatch
    split
    · exact bounded_emit _
    · exact maintains_pure ()

/-- A delta is within the bounds of its patches. -/
theorem bounded_emitDelta (parsed : Json.Value) : Bounded limits (emitDelta limits parsed) := by
  unfold emitDelta
  split
  · exact maintains_pure ()
  split
  · exact bounded_emit _
  · exact bounded_emitPatches _
  · exact maintains_pure ()

/-- An empty record is within all bounds. -/
theorem bounded_resetRecord : Bounded limits resetRecord :=
  maintains_modify fun _ h => h.resetRecord

/-- A record is dispatched and reset. -/
theorem bounded_dispatchRecord : Bounded limits (dispatchRecord limits) := by
  intro s h
  simp only [dispatchRecord, wp_bind, wp_get, wp_ite]
  split
  · exact bounded_resetRecord s h
  have hdispatched : WithinBounds limits { s with dispatched := s.dispatched + 1 } :=
    h.of_eq rfl rfl rfl rfl rfl rfl
  rw [wp_set, wp_ite]
  split
  · exact bounded_resetRecord _ hdispatched
  rw [wp_bind]
  refine wp_mono (bounded_resetRecord _ hdispatched) (fun _ s' h' => ?_) fun _ _ h => h
  rw [wp_ite]
  split
  · rw [wp_bind]
    refine wp_mono (bounded_emit _ s' h') (fun _ s'' h'' => ?_) fun _ _ h => h
    exact (h''.shorten (Nat.zero_le _)).of_eq rfl rfl rfl rfl rfl rfl
  rw [wp_ite]
  split
  · exact h'
  cases Json.parse (joinLines s.dataLines) with
  | none => trivial
  | some parsed => exact bounded_emitDelta parsed s' h'

/-- A line that would exceed a bound is refused. -/
theorem bounded_consumeLine (line : Text) : Bounded limits (consumeLine limits line) := by
  intro s h
  simp only [consumeLine, wp_bind, wp_get, wp_ite, wp_pure, wp_throw, wp_set]
  split
  · exact h
  split
  · exact bounded_dispatchRecord s h
  split
  · exact h
  split
  · exact wp_assertPendingTextBound_within fun hpending =>
      ⟨h.events, h.queuedTextChars, h.queuedText, h.pendingDataChars, hpending, h.dataLines⟩
  split
  · split
    · trivial
    rename_i hroom
    refine wp_assertPendingTextBound_within fun hpending =>
      ⟨h.events, h.queuedTextChars, h.queuedText, ?_, hpending, ?_⟩
    · dsimp only
      rw [length_joinLines_snoc, h.pendingDataChars]
    · rw [List.length_append, List.length_singleton]
      omega
  · exact h

/-- Line by line. -/
theorem bounded_pushLines (fuel : ℕ) : Bounded limits (pushLines limits fuel) := by
  induction fuel with
  | zero => exact maintains_pure ()
  | succ fuel ih =>
    intro s h
    simp only [pushLines, wp_bind, wp_get, wp_ite, wp_pure]
    split
    · exact h
    cases s.textBuffer.idxOf? LF with
    | none => exact h
    | some newlineIndex =>
      rw [wp_bind, wp_set, wp_bind]
      have hshorter : (s.textBuffer.drop (newlineIndex + 1)).length ≤ s.textBuffer.length := by
        rw [List.length_drop]
        exact Nat.sub_le _ _
      refine wp_mono (bounded_consumeLine _ _ (h.shorten hshorter)) (fun _ s' h' => ?_) fun _ _ h => h
      exact (bounded_assertPendingTextBound.bind fun _ => ih) s' h'

/-- What was decoded is cut into lines, and the open one is bounded. -/
theorem bounded_pushDecoded (decoded : Text) : Bounded limits (pushDecoded limits decoded) := by
  intro s h
  simp only [pushDecoded, wp_bind, wp_get, wp_ite, wp_pure, wp_set]
  split
  · exact h
  · -- Here the text grows, and the check decides whether it may.
    refine wp_mono (wp_assertPendingTextBound_within fun hpending =>
      ⟨h.events, h.queuedTextChars, h.queuedText, h.pendingDataChars, hpending, h.dataLines⟩)
      (fun _ s' h' => bounded_pushLines _ s' h') fun _ _ h => h

/-- The text of a chunk is bounded by the chunk. -/
theorem bounded_pushBase64 (encoded : Text) : Bounded limits (pushBase64 limits encoded) := by
  intro s h
  simp only [pushBase64, wp_bind, wp_get, wp_ite, wp_pure, wp_throw]
  split
  · exact h
  split
  · trivial
  split
  · trivial
  cases s.decoder.decodeStream (Base64.decode encoded) with
  | none => trivial
  | some p =>
    rw [wp_bind, wp_set]
    exact bounded_pushDecoded _ _ (h.of_eq rfl rfl rfl rfl rfl rfl)

/-- The rest is a line. -/
theorem bounded_consumeTail : Bounded limits (consumeTail limits) := by
  intro s h
  simp only [consumeTail, wp_bind, wp_get, wp_ite, wp_pure, wp_set]
  split
  · exact bounded_consumeLine _ _ (h.shorten (Nat.zero_le _))
  · exact h

/-- The end consumes the rest. -/
theorem bounded_finish : Bounded limits (finish limits) := by
  intro s h
  simp only [finish, wp_bind, wp_get, wp_ite, wp_pure]
  split
  · exact h
  cases s.decoder.decodeEnd with
  | none => trivial
  | some p =>
    rw [wp_bind, wp_set]
    exact ((bounded_pushDecoded _).bind fun _ => bounded_consumeTail.bind fun _ =>
      bounded_dispatchRecord) _ (h.of_eq rfl rfl rfl rfl rfl rfl)

/-- An empty queue has nothing to count. -/
theorem WithinBounds.emptied (h : WithinBounds limits s) :
    WithinBounds limits { s with events := [], queuedTextChars := 0 } :=
  ⟨Nat.zero_le _, rfl, Nat.zero_le _, h.pendingDataChars, h.pendingText, h.dataLines⟩

/-- An empty queue counts nothing. -/
theorem bounded_drain : Bounded limits drain := by
  intro s h
  simp only [drain, wp_bind, wp_get, wp_ite, wp_pure, wp_set]
  split
  · exact h
  · exact h.emptied

/-- A stopped consumer holds no more. -/
theorem WithinBounds.stop (h : WithinBounds limits s) : WithinBounds limits s.stop :=
  ⟨h.events, h.queuedTextChars, h.queuedText, rfl, Nat.zero_le _, Nat.zero_le _⟩

/-- Neither does one that is disposed of. -/
theorem WithinBounds.dispose (h : WithinBounds limits s) : WithinBounds limits s.dispose :=
  h.stop.emptied

/-! ## Sequences of calls -/

/-- A call of any of the consumer's methods. -/
inductive MethodCall where
  | pushBase64 (encoded : Text)
  | drain
  | finish
  | stop
  | dispose
deriving DecidableEq, Repr

/-- The consumer after a computation that returned. -/
def returned {α : Type} (x : ConsumerM α) (s : ResponseStreamConsumer) :
    Option ResponseStreamConsumer :=
  match x s with
  | (.ok _, s') => some s'
  | (.error _, _) => none

/-- The consumer after a call that returns normally; `none` where it throws. -/
def call (limits : ConsumerLimits) (s : ResponseStreamConsumer) :
    MethodCall → Option ResponseStreamConsumer
  | .pushBase64 encoded => returned (pushBase64 limits encoded) s
  | .drain => returned drain s
  | .finish => returned (finish limits) s
  | .stop => some s.stop
  | .dispose => some s.dispose

/-- A call that returns has kept the bounds. -/
theorem within_of_returned {α : Type} {x : ConsumerM α} {s' : ResponseStreamConsumer}
    (hx : Bounded limits x) (h : WithinBounds limits s) (hreturned : returned x s = some s') :
    WithinBounds limits s' := by
  have hwp := wp_apply (hx s h)
  unfold returned at hreturned
  split at hreturned
  · rename_i heq
    rw [heq] at hwp
    cases hreturned
    exact hwp
  · cases hreturned

/-- So has any call. -/
theorem WithinBounds.call (h : WithinBounds limits s) {method : MethodCall}
    {s' : ResponseStreamConsumer} (hcall : s.call limits method = some s') :
    WithinBounds limits s' := by
  cases method with
  | pushBase64 encoded => exact within_of_returned (bounded_pushBase64 encoded) h hcall
  | drain => exact within_of_returned bounded_drain h hcall
  | finish => exact within_of_returned bounded_finish h hcall
  | stop =>
    cases hcall
    exact h.stop
  | dispose =>
    cases hcall
    exact h.dispose

/-- As long as no call throws, the consumer holds no more than its limits allow, and its counts are
those of what it holds. -/
theorem calls_within_bounds (limits : ConsumerLimits) (calls : List MethodCall)
    (s : ResponseStreamConsumer) (hrun : Machine.exec (call limits) {} calls = some s) :
    WithinBounds limits s :=
  Machine.exec_invariant (fun _ _ _ h hcall => h.call hcall)
    ⟨Nat.zero_le _, rfl, Nat.zero_le _, rfl, Nat.zero_le _, Nat.zero_le _⟩ hrun

/-- A text delta that fits is counted, and leaves with the queue. -/
def deltaCalls : List MethodCall :=
  [.pushBase64 (Text.of "ZXZlbnQ6IGRlbHRhCmRhdGE6IHsidiI6ImhpIn0KCg=="),
    .pushBase64 (Text.of "ZGF0YTogYQ==")]

/-- The delta is within the bounds before it is drained. -/
theorem calls_within_bounds_delta :
    ∃ s, Machine.exec (call {}) {} deltaCalls = some s ∧
      (s.events, s.queuedTextChars, s.textBuffer.length) = ([.textDelta (Text.of "hi")], 2, 7) ∧
      WithinBounds {} s := by
  have hend : (Machine.exec (call {}) {} deltaCalls).map
      (fun s => (s.events, s.queuedTextChars, s.textBuffer.length)) =
      some ([.textDelta (Text.of "hi")], 2, 7) := by
    decide +kernel
  obtain ⟨s, hrun, heq⟩ := Option.map_eq_some_iff.mp hend
  exact ⟨s, hrun, heq, calls_within_bounds {} deltaCalls s hrun⟩

end ResponseStreamConsumer

end Threadwire
