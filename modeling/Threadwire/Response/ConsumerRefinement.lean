import Threadwire.Response.StreamReference

/-!
# The incremental consumer reads the reference

The consumer is fed chunks and drained in any order and then finished. What it has read of the
stream at any time is described by the lines seen so far: the complete records gave the events, and
the event name, the data lines and the text buffer are those of the open record and the open line.
`consumer_reads_stream` concludes that the events, the failing record and completion are those of
the reference, unless a limit was hit.
-/

namespace Threadwire

namespace ResponseStreamConsumer

open Effect StreamReference

/-- A call of the consumer's interface. -/
inductive ConsumerCall where
  | pushBase64 (encoded : Text)
  | finish
  | drain
deriving DecidableEq, Repr

/-- A consumer, what has been drained from it, and the failure that ended its use. -/
structure ConsumerRun where
  consumer : ResponseStreamConsumer := {}
  drained : List NormalizedResponseStreamEvent := []
  failure : Option ResponseStreamConsumerFailureKind := none
deriving DecidableEq, Repr

namespace ConsumerRun

/-- The run after a call that returned, or threw. -/
def after (run : ConsumerRun) :
    Except ResponseStreamConsumerFailureKind Unit × ResponseStreamConsumer → ConsumerRun
  | (.ok (), consumer) => { run with consumer }
  | (.error kind, consumer) => { run with consumer, failure := some kind }

/-- Make a call, unless an earlier one failed; draining is possible even then. -/
def perform (limits : ConsumerLimits) (run : ConsumerRun) : ConsumerCall → ConsumerRun
  | .pushBase64 encoded =>
    if run.failure.isSome then run
    else run.after (ResponseStreamConsumer.pushBase64 limits encoded run.consumer)
  | .finish =>
    if run.failure.isSome then run
    else run.after (ResponseStreamConsumer.finish limits run.consumer)
  | .drain =>
    match ResponseStreamConsumer.drain run.consumer with
    | (.ok events, consumer) => { run with consumer, drained := run.drained ++ events }
    | (.error _, _) => run

/-- Make calls in order. -/
def performAll (limits : ConsumerLimits) (run : ConsumerRun) (calls : List ConsumerCall) :
    ConsumerRun :=
  calls.foldl (perform limits) run

/-- What the run shows: the events drained so far and those still queued, the record whose parsing
failed, and whether the stream completed. -/
def observed (run : ConsumerRun) : StreamOutcome where
  events := run.drained ++ run.consumer.events
  failedAt := if run.failure = some .parseFailed then some (run.consumer.dispatched - 1) else none
  completed := run.consumer.completedState

end ConsumerRun

/-! ## What the consumer has read -/

/-- Events the consumer has produced are the drained ones, `drained`, and the queued ones. It has
dispatched `records`, and `current` is open. -/
structure Reads (drained : List NormalizedResponseStreamEvent) (records : List StreamRecord)
    (current : StreamRecord) (s : ResponseStreamConsumer) : Prop where
  outcome_eq : outcome records = { events := drained ++ s.events }
  incomplete : s.completedState = false
  event : s.eventName = current.event
  data : s.dataLines = current.data
  count : s.dispatched = records.length

/-- The last of the records completed the stream. -/
structure Done (drained : List NormalizedResponseStreamEvent) (records : List StreamRecord)
    (s : ResponseStreamConsumer) : Prop where
  outcome_eq : outcome records = { events := drained ++ s.events, completed := true }
  completed : s.completedState = true

/-- The last of the records could not be parsed. -/
structure Fails (drained : List NormalizedResponseStreamEvent) (records : List StreamRecord)
    (s : ResponseStreamConsumer) : Prop where
  outcome_eq : outcome records =
    { events := drained ++ s.events, failedAt := some (s.dispatched - 1) }
  incomplete : s.completedState = false

/-- The parts of a consumer that parsing leaves alone. -/
def SameDecoder (s s' : ResponseStreamConsumer) : Prop :=
  s'.decoder = s.decoder ∧ s'.disposed = s.disposed

variable {limits : ConsumerLimits} {s : ResponseStreamConsumer}

/-- Emitting queues events or overflows. -/
def Queues (events : List NormalizedResponseStreamEvent) (x : ConsumerM Unit) : Prop :=
  ∀ s, wp x (fun _ s' => ∃ queued, s' = { s with
      events := s.events ++ events, queuedTextChars := queued })
    (fun kind _ => kind = .bufferOverflow) s

/-- A value queues nothing. -/
theorem queues_pure : Queues [] (pure ()) := fun s => ⟨s.queuedTextChars, by simp⟩

/-- One event is queued, or the queue overflows. -/
theorem queues_emit (event : NormalizedResponseStreamEvent) : Queues [event] (emit limits event) := by
  intro s
  rw [emit, wp_bind, wp_get]
  simp only [wp_ite, wp_throw]
  split
  · trivial
  · cases event with
    | completed => exact ⟨s.queuedTextChars, rfl⟩
    | textDelta text =>
      simp only [wp_ite, wp_throw]
      split
      · trivial
      · exact ⟨s.queuedTextChars + text.length, rfl⟩

/-- A patch emits its text, if it appends to the assistant's message. -/
theorem queues_emitPatch (patch : Json.Value) :
    Queues ((patchText patch).toList.map .textDelta) (emitPatch limits patch) := by
  unfold emitPatch
  cases patchText patch with
  | some text => exact queues_emit _
  | none => exact queues_pure

/-- The texts of the patches are queued, in their order. -/
theorem queues_emitPatches (patches : List Json.Value) :
    Queues ((patches.filterMap patchText).map .textDelta) (emitPatches limits patches) := by
  induction patches with
  | nil => exact queues_pure
  | cons patch patches ih =>
    intro s
    rw [emitPatches, wp_bind]
    refine wp_mono (queues_emitPatch patch s) ?_ fun _ _ h => h
    rintro _ s' ⟨queued, rfl⟩
    refine wp_mono (ih _) ?_ fun _ _ h => h
    rintro _ s'' ⟨queued', rfl⟩
    refine ⟨queued', ?_⟩
    rw [List.filterMap_cons]
    cases patchText patch <;> simp

/-- A parsed delta emits its texts. -/
theorem queues_emitDelta (parsed : Json.Value) :
    Queues ((deltaTexts parsed).map .textDelta) (emitDelta limits parsed) := by
  unfold emitDelta deltaTexts
  split
  · exact queues_pure
  · cases parsed.property? (Text.of "v") with
    | none => exact queues_pure
    | some value =>
      cases value with
      | string text => exact queues_emit _
      | array patches => exact queues_emitPatches _
      | _ => exact queues_pure

/-! ## Records and lines -/

variable {drained : List NormalizedResponseStreamEvent} {records : List StreamRecord}
  {current : StreamRecord}

/-- A record that was dispatched: it is read, or it completes the stream. -/
def Dispatched (drained : List NormalizedResponseStreamEvent) (records : List StreamRecord)
    (s s' : ResponseStreamConsumer) : Prop :=
  (Reads drained records {} s' ∧ s'.textBuffer = s.textBuffer ∨ Done drained records s') ∧
    SameDecoder s s'

/-- One more record at the end of records that were all read. -/
theorem Reads.outcome_snoc (h : Reads drained records current s) (record : StreamRecord) :
    outcome (records ++ [record]) =
      { events := drained ++ s.events ++ (outcome [record]).events
        failedAt := (outcome [record]).failedAt.map (· + records.length)
        completed := (outcome [record]).completed } := by
  rw [outcome_append (by rw [h.outcome_eq]; exact ⟨rfl, rfl⟩), h.outcome_eq]

/-- What one record adds, by its meaning. -/
theorem outcome_singleton (record : StreamRecord) :
    outcome [record] =
      match meaning record with
      | .texts texts => { events := texts.map .textDelta }
      | .done => { events := [.completed], completed := true }
      | .invalid => { failedAt := some 0 } := by
  rw [outcome]
  cases meaning record <;> simp [outcome]

/-- A record is dispatched: it is read, it completes the stream, or it does not parse. -/
theorem wp_dispatchRecord (h : Reads drained records current s) :
    wp (dispatchRecord limits) (fun _ s' => Dispatched drained (records ++ [current]) s s')
      (fun kind s' => kind = .parseFailed → Fails drained (records ++ [current]) s') s := by
  have hsnoc := h.outcome_snoc current
  rw [outcome_singleton] at hsnoc
  obtain ⟨-, hincomplete, hevent, hdata, hcount⟩ := h
  simp only [dispatchRecord, resetRecord, wp_bind, wp_get, wp_set, hincomplete, Bool.false_eq_true,
    if_false, wp_ite, wp_modify, hdata, hevent]
  unfold meaning at hsnoc
  -- A record without data says nothing.
  by_cases hempty : current.data = []
  · rw [if_pos hempty]
    simp only [hempty, if_true] at hsnoc
    exact ⟨.inl ⟨⟨by simpa using hsnoc, rfl, rfl, rfl, by simp [hcount]⟩, rfl⟩, rfl, rfl⟩
  rw [if_neg hempty]
  simp only [if_neg hempty] at hsnoc
  -- The end of the stream.
  by_cases hdone : joinLines current.data = Text.of "[DONE]"
  · rw [if_pos hdone]
    simp only [hdone, if_true] at hsnoc
    refine wp_mono (queues_emit _ _) ?_ fun kind _ hkind hfailed => ?_
    · rintro _ s' ⟨queued, rfl⟩
      exact ⟨.inr ⟨by simpa using hsnoc, rfl⟩, rfl, rfl⟩
    · rw [hkind] at hfailed
      cases hfailed
  rw [if_neg hdone]
  simp only [if_neg hdone] at hsnoc
  -- Another event is ignored.
  by_cases hname : current.event.getD (Text.of "message") ≠ Text.of "delta"
  · rw [if_pos hname]
    simp only [if_pos hname] at hsnoc
    exact ⟨.inl ⟨⟨by simpa using hsnoc, rfl, rfl, rfl, by simp [hcount]⟩, rfl⟩, rfl, rfl⟩
  rw [if_neg hname]
  simp only [if_neg hname] at hsnoc
  cases hparse : Json.parse (joinLines current.data) with
  | none =>
    simp only [hparse] at hsnoc
    exact fun _ => ⟨by simpa [hcount] using hsnoc, rfl⟩
  | some parsed =>
    simp only [hparse] at hsnoc
    refine wp_mono (queues_emitDelta _ _) ?_ fun kind _ hkind hfailed => ?_
    · rintro _ s' ⟨queued, rfl⟩
      exact ⟨.inl ⟨⟨by simpa using hsnoc, rfl, rfl, rfl, by simp [hcount]⟩, rfl⟩, rfl, rfl⟩
    · rw [hkind] at hfailed
      cases hfailed

/-- The lines read so far completed the stream. -/
structure DoneBy (drained : List NormalizedResponseStreamEvent) (lines : List Text)
    (s : ResponseStreamConsumer) : Prop where
  settles : Settles lines { events := drained ++ s.events, completed := true }
  completed : s.completedState = true

/-- A record among the lines read so far could not be parsed. -/
structure FailsBy (drained : List NormalizedResponseStreamEvent) (lines : List Text)
    (s : ResponseStreamConsumer) : Prop where
  settles : Settles lines { events := drained ++ s.events, failedAt := some (s.dispatched - 1) }
  incomplete : s.completedState = false

variable {lines : List Text}

/-- The records of the lines that completed the stream. -/
theorem Done.doneBy (h : Done drained (recordsOf lines) s) : DoneBy drained lines s := by
  have hsettles := settles_of_ended lines (by simp [h.outcome_eq])
  rw [h.outcome_eq] at hsettles
  exact ⟨hsettles, h.completed⟩

/-- Or failed. -/
theorem Fails.failsBy (h : Fails drained (recordsOf lines) s) : FailsBy drained lines s := by
  have hsettles := settles_of_ended lines (by simp [h.outcome_eq])
  rw [h.outcome_eq] at hsettles
  exact ⟨hsettles, h.incomplete⟩

/-- What completed the stream is not undone by more lines. -/
theorem DoneBy.append (h : DoneBy drained lines s) (more : List Text) :
    DoneBy drained (lines ++ more) s :=
  ⟨h.settles.append more, h.completed⟩

/-- Nor what failed. -/
theorem FailsBy.append (h : FailsBy drained lines s) (more : List Text) :
    FailsBy drained (lines ++ more) s :=
  ⟨h.settles.append more, h.incomplete⟩

/-- The consumer has read the lines and nothing has ended the reading. -/
def ReadsLines (drained : List NormalizedResponseStreamEvent) (lines : List Text)
    (s : ResponseStreamConsumer) : Prop :=
  Reads drained (recordsOf lines) (openRecord lines) s

/-- What reading further lines leads to: they are all read and `buffer` is left, or they completed
the stream. -/
def Consumed (drained : List NormalizedResponseStreamEvent) (lines : List Text) (buffer : Text)
    (s s' : ResponseStreamConsumer) : Prop :=
  (ReadsLines drained lines s' ∧ s'.textBuffer = buffer ∨ DoneBy drained lines s') ∧
    SameDecoder s s'

/-- The bound leaves the consumer as it is, or overflows. -/
theorem wp_assertPendingTextBound :
    wp (assertPendingTextBound limits) (fun _ s' => s' = s)
      (fun kind _ => kind = .bufferOverflow) s := by
  simp only [assertPendingTextBound, wp_bind, wp_get, wp_ite, wp_throw, wp_pure]
  split <;> trivial

/-- One line: an empty one dispatches the open record, any other extends it. -/
theorem wp_consumeLine (h : ReadsLines drained lines s) (line : Text) :
    wp (consumeLine limits line)
      (fun _ s' => Consumed drained (lines ++ [line]) s.textBuffer s s')
      (fun kind s' => kind = .parseFailed → FailsBy drained (lines ++ [line]) s') s := by
  have hincomplete := h.incomplete
  simp only [consumeLine, wp_bind, wp_get, hincomplete, Bool.false_eq_true, if_false, wp_ite]
  -- an empty line dispatches the record that is open; any other one goes into it
  by_cases hempty : line = []
  · subst hempty
    obtain ⟨hrecords, hopen⟩ := records_snoc_empty lines
    rw [if_pos rfl]
    refine wp_mono (wp_dispatchRecord h) ?_ fun kind s' hfails hkind => ?_
    · rintro _ s' ⟨hread | hdone, hsame⟩
      · exact ⟨.inl ⟨by rw [ReadsLines, hrecords, hopen]; exact hread.1, hread.2⟩, hsame⟩
      · exact ⟨.inr (Done.doneBy (by rwa [hrecords])), hsame⟩
    · exact Fails.failsBy (by rw [hrecords]; exact hfails hkind)
  obtain ⟨hrecords, hopen⟩ := records_snoc hempty
  have hnext : ∀ s' : ResponseStreamConsumer, s'.events = s.events →
      s'.completedState = false → s'.dispatched = s.dispatched → s'.textBuffer = s.textBuffer →
      SameDecoder s s' → s'.eventName = (addLine (openRecord lines) line).event →
      s'.dataLines = (addLine (openRecord lines) line).data →
      Consumed drained (lines ++ [line]) s.textBuffer s s' := by
    intro s' hevents hcompleted hdispatched hbuffer hsame hevent hdata
    refine ⟨.inl ⟨?_, hbuffer⟩, hsame⟩
    rw [ReadsLines, hrecords, hopen]
    exact ⟨by rw [hevents]; exact h.outcome_eq, hcompleted, hevent, hdata,
      hdispatched.trans h.count⟩
  unfold addLine at hnext
  rw [if_neg hempty]
  -- a comment changes nothing
  by_cases hcomment : line.head? = some COLON
  · rw [if_pos hcomment]
    simp only [hcomment, if_true] at hnext
    exact hnext s rfl hincomplete rfl rfl ⟨rfl, rfl⟩ h.event h.data
  rw [if_neg hcomment]
  simp only [if_neg hcomment] at hnext
  obtain ⟨field, value, hfield⟩ : ∃ field value, fieldAndValue line = (field, value) := ⟨_, _, rfl⟩
  simp only [hfield] at hnext
  simp only [hfield, wp_set, wp_throw]
  by_cases hevent : field = Text.of "event"
  · rw [if_pos hevent]
    simp only [hevent, if_true] at hnext
    refine wp_mono wp_assertPendingTextBound ?_ fun kind _ hkind hfailed => ?_
    · rintro _ s' rfl
      exact hnext _ rfl rfl rfl rfl ⟨rfl, rfl⟩ rfl h.data
    · rw [hkind] at hfailed
      cases hfailed
  rw [if_neg hevent]
  simp only [if_neg hevent] at hnext
  by_cases hdata : field = Text.of "data"
  · rw [if_pos hdata]
    simp only [hdata, if_true] at hnext
    split
    · exact fun hkind => by cases hkind
    · refine wp_mono wp_assertPendingTextBound ?_ fun kind _ hkind hfailed => ?_
      · rintro _ s' rfl
        exact hnext _ rfl rfl rfl rfl ⟨rfl, rfl⟩ h.event (by rw [← h.data])
      · rw [hkind] at hfailed
        cases hfailed
  · rw [if_neg hdata]
    simp only [if_neg hdata] at hnext
    exact hnext s rfl hincomplete rfl rfl ⟨rfl, rfl⟩ h.event h.data

/-! ## Texts -/

/-- The terminated lines of a text. -/
def linesOf (text : Text) : List Text := (Segments.complete isLF text).map withoutCR

/-- A text with a line feed is its first line, the line feed and the rest. -/
theorem linesOf_of_idxOf? {buffer : Text} {i : ℕ} (h : buffer.idxOf? LF = some i) :
    linesOf buffer = withoutCR (buffer.take i) :: linesOf (buffer.drop (i + 1)) ∧
      Segments.remainder isLF buffer = Segments.remainder isLF (buffer.drop (i + 1)) ∧
      i < buffer.length := by
  obtain ⟨hi, hat, hbefore⟩ := List.idxOf?_eq_some_iff.mp h
  have hsplit : buffer = buffer.take i ++ LF :: buffer.drop (i + 1) := by
    rw [← hat, List.getElem_cons_drop, List.take_append_drop]
  have hfree : ∀ c ∈ buffer.take i, isLF c = false := by
    intro c hc
    obtain ⟨j, hj, rfl⟩ := List.mem_iff_getElem.mp hc
    rw [List.length_take] at hj
    rw [List.getElem_take]
    simpa [isLF] using hbefore j (by omega)
  obtain ⟨hcomplete, hremainder⟩ :=
    Segments.of_first (p := isLF) (l := buffer.drop (i + 1)) hfree (x := LF) (by simp [isLF])
  rw [← hsplit] at hcomplete hremainder
  exact ⟨by rw [linesOf, hcomplete]; rfl, hremainder, hi⟩

/-- Without a line feed there is no terminated line. -/
theorem linesOf_of_idxOf?_none {buffer : Text} (h : buffer.idxOf? LF = none) :
    linesOf buffer = [] ∧ Segments.remainder isLF buffer = buffer := by
  rw [List.idxOf?_eq_none_iff] at h
  have hfree : ∀ c ∈ buffer, isLF c = false := by
    intro c hc
    simp only [isLF, beq_eq_false_iff_ne]
    rintro rfl
    exact h hc
  obtain ⟨hcomplete, hremainder⟩ := Segments.of_forall hfree
  exact ⟨by rw [linesOf, hcomplete]; rfl, hremainder⟩

/-- Once the stream is complete, the loop stops. -/
theorem wp_pushLines_completed (h : s.completedState = true) (fuel : ℕ) :
    wp (pushLines limits fuel) (fun _ s' => s' = s) (fun _ _ => False) s := by
  cases fuel with
  | zero => rfl
  | succ fuel => simp [pushLines, wp_bind, h]

variable (limits) in
/-- The loop reads every terminated line of the buffer and leaves the open one. -/
theorem wp_pushLines (fuel : ℕ) (h : ReadsLines drained lines s)
    (hfuel : s.textBuffer.length < fuel) :
    wp (pushLines limits fuel)
      (fun _ s' => Consumed drained (lines ++ linesOf s.textBuffer)
        (Segments.remainder isLF s.textBuffer) s s')
      (fun kind s' => kind = .parseFailed →
        FailsBy drained (lines ++ linesOf s.textBuffer) s') s := by
  -- The induction is on the fuel; every line that is read makes the buffer shorter.
  induction fuel generalizing s lines with
  | zero => exact absurd hfuel (Nat.not_lt_zero _)
  | succ fuel ih =>
    simp only [pushLines, wp_bind, wp_get]
    rw [if_neg (by simp [h.incomplete])]
    cases hindex : s.textBuffer.idxOf? LF with
    | none =>
      obtain ⟨hlines, hremainder⟩ := linesOf_of_idxOf?_none hindex
      rw [hlines, hremainder, List.append_nil]
      exact ⟨.inl ⟨h, rfl⟩, rfl, rfl⟩
    | some newlineIndex =>
      obtain ⟨hlines, hremainder, hlt⟩ := linesOf_of_idxOf? hindex
      rw [hlines, hremainder]
      simp only [wp_bind, wp_set]
      have hread : ReadsLines drained lines
          { s with textBuffer := s.textBuffer.drop (newlineIndex + 1) } :=
        ⟨h.outcome_eq, h.incomplete, h.event, h.data, h.count⟩
      refine wp_mono (wp_consumeLine hread _) ?_ fun kind s' hfails hkind => ?_
      · rintro _ s₁ ⟨hnext, hsame⟩
        rw [wp_bind]
        refine wp_mono wp_assertPendingTextBound ?_ fun kind _ hkind hfailed => ?_
        · rintro _ s₂ rfl
          -- The line was read and the loop goes on, or it has completed the stream.
          rcases hnext with ⟨hread₁, hbuffer⟩ | hdone
          · have hshort : s₂.textBuffer.length < fuel := by
              rw [hbuffer, List.length_drop]
              omega
            refine wp_mono (ih hread₁ hshort) ?_ fun kind s' hfails hkind => ?_
            · rintro _ s₃ ⟨hrest, hsame'⟩
              rw [hbuffer, List.append_assoc] at hrest
              exact ⟨hrest, hsame'.1.trans hsame.1, hsame'.2.trans hsame.2⟩
            · have hfails' := hfails hkind
              rwa [hbuffer, List.append_assoc] at hfails'
          · refine wp_mono (wp_pushLines_completed hdone.completed fuel) ?_ fun _ _ h => h.elim
            rintro _ s₃ rfl
            have hdone' := hdone.append (linesOf (s.textBuffer.drop (newlineIndex + 1)))
            rw [List.append_assoc] at hdone'
            exact ⟨.inr hdone', hsame⟩
        · rw [hkind] at hfailed
          cases hfailed
      · have hfails' := (hfails hkind).append (linesOf (s.textBuffer.drop (newlineIndex + 1)))
        rwa [List.append_assoc] at hfails'

/-- The consumer has read a text: its terminated lines, with the open line in the buffer. -/
def ReadsText (drained : List NormalizedResponseStreamEvent) (text : Text)
    (s : ResponseStreamConsumer) : Prop :=
  ReadsLines drained (linesOf text) s ∧ s.textBuffer = Segments.remainder isLF text

/-- The open line is continued by what is decoded next. -/
theorem linesOf_append (text decoded : Text) :
    linesOf (text ++ decoded) =
      linesOf text ++ linesOf (Segments.remainder isLF text ++ decoded) := by
  rw [linesOf, (Segments.complete_append text decoded).1, List.map_append]
  rfl

/-- Text is read in any portions. -/
theorem wp_pushDecoded {text : Text} (h : ReadsText drained text s) (decoded : Text) :
    wp (pushDecoded limits decoded)
      (fun _ s' => Consumed drained (linesOf (text ++ decoded))
        (Segments.remainder isLF (text ++ decoded)) s s')
      (fun kind s' => kind = .parseFailed → FailsBy drained (linesOf (text ++ decoded)) s') s := by
  obtain ⟨hread, hbuffer⟩ := h
  simp only [pushDecoded, wp_bind, wp_get]
  by_cases hempty : decoded = []
  · rw [if_pos (.inl hempty), hempty, List.append_nil]
    exact ⟨.inl ⟨hread, hbuffer⟩, rfl, rfl⟩
  rw [if_neg (by simp [hempty, hread.incomplete])]
  simp only [wp_bind, wp_set]
  refine wp_mono wp_assertPendingTextBound ?_ fun kind _ hkind hfailed => ?_
  · rintro _ s₁ rfl
    have hread₁ : ReadsLines drained (linesOf text)
        { s with textBuffer := s.textBuffer ++ decoded } :=
      ⟨hread.outcome_eq, hread.incomplete, hread.event, hread.data, hread.count⟩
    have hloop := wp_pushLines limits (s.textBuffer.length + decoded.length + 1) hread₁
      (by simp)
    rw [linesOf_append, (Segments.complete_append text decoded).2, ← hbuffer]
    exact hloop
  · rw [hkind] at hfailed
    cases hfailed

/-! ## Calls -/

/-- The stream completed, and its events are the consumer's. -/
structure Completes (chars : List Char) (drained : List NormalizedResponseStreamEvent)
    (s : ResponseStreamConsumer) : Prop where
  stream : readStream chars = { events := drained ++ s.events, completed := true }
  completed : s.completedState = true

/-- A record of the stream could not be parsed: the one the consumer dispatched last. -/
structure FailsIn (chars : List Char) (drained : List NormalizedResponseStreamEvent)
    (s : ResponseStreamConsumer) : Prop where
  stream : readStream chars =
    { events := drained ++ s.events, failedAt := some (s.dispatched - 1) }
  incomplete : s.completedState = false

/-- The whole stream was read, and it neither completed nor failed. -/
structure RunsOut (chars : List Char) (drained : List NormalizedResponseStreamEvent)
    (s : ResponseStreamConsumer) : Prop where
  stream : readStream chars = { events := drained ++ s.events }
  incomplete : s.completedState = false

/-- The consumer has read the bytes `before` of a stream. -/
structure HasConsumed (before : List UInt8) (drained : List NormalizedResponseStreamEvent)
    (text : Text) (s : ResponseStreamConsumer) : Prop where
  decoded : s.decoder.HasRead before text
  read : ReadsText drained text s
  active : s.disposed = false

variable {chars : List Char} {text : Text}

/-- The lines of a part of the stream are its first lines. -/
theorem linesOf_isPrefix (h : text <+: TextDecoder.textOf chars) :
    linesOf text <+: streamLines (TextDecoder.textOf chars) := by
  obtain ⟨rest, hrest⟩ := h
  rw [← hrest, show streamLines (text ++ rest) = linesOf (text ++ rest) ++ _ from rfl,
    linesOf_append, List.append_assoc]
  exact List.prefix_append _ _

/-- What its first lines complete completes the stream. -/
theorem DoneBy.completes (h : DoneBy drained lines s)
    (hlines : lines <+: streamLines (TextDecoder.textOf chars)) : Completes chars drained s := by
  obtain ⟨rest, hrest⟩ := hlines
  refine ⟨?_, h.completed⟩
  rw [readStream, ← hrest]
  exact h.settles rest

/-- And what fails in them fails in it. -/
theorem FailsBy.failsIn (h : FailsBy drained lines s)
    (hlines : lines <+: streamLines (TextDecoder.textOf chars)) : FailsIn chars drained s := by
  obtain ⟨rest, hrest⟩ := hlines
  refine ⟨?_, h.incomplete⟩
  rw [readStream, ← hrest]
  exact h.settles rest

/-- A chunk is read: the decoder holds back the bytes of an unfinished character, and the parser
holds back an unfinished line. -/
theorem wp_pushBase64 {before after : List UInt8} {encoded : Text}
    (h : HasConsumed before drained text s) (hvalid : Base64.isValid encoded)
    (hstream : before ++ Base64.decode encoded ++ after = Utf8.encode chars) :
    wp (pushBase64 limits encoded)
      (fun _ s' => (∃ text', HasConsumed (before ++ Base64.decode encoded) drained text' s') ∨
        Completes chars drained s')
      (fun kind s' => kind = .parseFailed → FailsIn chars drained s') s := by
  simp only [pushBase64, wp_bind, wp_get]
  rw [if_neg (by simp [h.active, h.read.1.incomplete]), wp_ite]
  split
  · exact fun hkind => by cases hkind
  obtain ⟨decoder, decoded, hdecode, hhas⟩ := h.decoded.decodeStream hstream
  simp only [hdecode, wp_bind, wp_set]
  have hextends := linesOf_isPrefix (hhas.isPrefix hstream)
  have hread : ReadsText drained text { s with decoder } :=
    ⟨⟨h.read.1.outcome_eq, h.read.1.incomplete, h.read.1.event, h.read.1.data, h.read.1.count⟩,
      h.read.2⟩
  refine wp_mono (wp_pushDecoded hread decoded) ?_ fun kind s' hfails hkind =>
    (hfails hkind).failsIn hextends
  rintro _ s' ⟨hnext, hsame⟩
  rcases hnext with ⟨hlines, hbuffer⟩ | hdone
  · exact .inl ⟨_, by rw [hsame.1]; exact hhas, ⟨hlines, hbuffer⟩, hsame.2.trans h.active⟩
  · exact .inr (hdone.completes hextends)

/-- The tail that no line feed ended is a line, unless it is empty. -/
theorem wp_consumeTail (h : ReadsText drained text s) :
    wp (consumeTail limits)
      (fun _ s' => ReadsLines drained (streamLines text) s' ∨ DoneBy drained (streamLines text) s')
      (fun kind s' => kind = .parseFailed → FailsBy drained (streamLines text) s') s := by
  obtain ⟨hread, hbuffer⟩ := h
  simp only [consumeTail, wp_bind, wp_get]
  have hlines : streamLines text = linesOf text ++
      if s.textBuffer = [] then [] else [withoutCR s.textBuffer] := by
    rw [hbuffer]
    rfl
  by_cases hempty : s.textBuffer = []
  · rw [if_neg (by simp [hempty])]
    rw [if_pos hempty, List.append_nil] at hlines
    rw [hlines]
    exact .inl hread
  · rw [if_pos (List.length_pos_iff.mpr hempty)]
    rw [if_neg hempty] at hlines
    simp only [wp_bind, wp_set]
    have hread' : ReadsLines drained (linesOf text) { s with textBuffer := [] } :=
      ⟨hread.outcome_eq, hread.incomplete, hread.event, hread.data, hread.count⟩
    rw [hlines]
    refine wp_mono (wp_consumeLine hread' _) ?_ fun _ _ h => h
    rintro _ s' ⟨⟨hnext, -⟩ | hdone, -⟩
    · exact .inl hnext
    · exact .inr hdone

/-- Finishing reads the tail and dispatches the record that is still open. -/
theorem wp_finish (h : HasConsumed (Utf8.encode chars) drained text s) :
    wp (finish limits)
      (fun _ s' => RunsOut chars drained s' ∨ Completes chars drained s')
      (fun kind s' => kind = .parseFailed → FailsIn chars drained s') s := by
  obtain ⟨hdecode, rfl⟩ := h.decoded.decodeEnd
  simp only [finish, wp_bind, wp_get]
  rw [if_neg (by simp [h.active, h.read.1.incomplete])]
  simp only [hdecode, wp_bind, wp_set]
  simp only [pushDecoded, wp_bind, wp_get, true_or, if_true, wp_pure]
  have hread : ReadsText drained (TextDecoder.textOf chars) { s with decoder := {} } :=
    ⟨⟨h.read.1.outcome_eq, h.read.1.incomplete, h.read.1.event, h.read.1.data, h.read.1.count⟩,
      h.read.2⟩
  refine wp_mono (wp_consumeTail hread) ?_ fun kind s' hfails hkind =>
    (hfails hkind).failsIn (List.prefix_refl _)
  rintro _ s₁ (hlines | hdone)
  · refine wp_mono (wp_dispatchRecord hlines) ?_ fun kind s' hfails hkind => ?_
    · rintro _ s' ⟨⟨hrest, -⟩ | hdone, -⟩
      · exact .inl ⟨by rw [readStream, readLines_eq]; exact hrest.outcome_eq, hrest.incomplete⟩
      · exact .inr ⟨by rw [readStream, readLines_eq]; exact hdone.outcome_eq, hdone.completed⟩
    · exact ⟨by rw [readStream, readLines_eq]; exact (hfails hkind).outcome_eq,
        (hfails hkind).incomplete⟩
  · have hcompletes := hdone.completes (List.prefix_refl _)
    simp only [dispatchRecord, resetRecord, wp_bind, wp_get]
    rw [if_pos hdone.completed]
    exact .inr ⟨hcompletes.stream, hcompletes.completed⟩

/-! ## Runs -/

/-- Draining always succeeds. -/
theorem drain_eq (s : ResponseStreamConsumer) :
    drain s = (.ok s.events, { s with
      events := [], queuedTextChars := if s.events = [] then s.queuedTextChars else 0 }) := by
  by_cases hempty : s.events = []
  · show (if s.events = [] then pure [] else _ :
      ConsumerM (List NormalizedResponseStreamEvent)) s = _
    obtain ⟨decoder, events, queued⟩ := s
    cases hempty
    rfl
  · show (if s.events = [] then _ else _ : ConsumerM (List NormalizedResponseStreamEvent)) s = _
    rw [if_neg hempty, if_neg hempty]
    rfl

/-- The bytes a call brings. -/
def ConsumerCall.bytes : ConsumerCall → List UInt8
  | .pushBase64 encoded => Base64.decode encoded
  | .finish => []
  | .drain => []

namespace ConsumerRun

variable {run : ConsumerRun}

/-- A limit was hit, or what the run shows is what the stream says. -/
def Agrees (chars : List Char) (run : ConsumerRun) : Prop :=
  run.failure = some .bufferOverflow ∨ run.observed = readStream chars

/-- What the run shows can no longer change. -/
def Ended (run : ConsumerRun) : Prop :=
  run.failure.isSome ∨ run.consumer.completedState = true

/-- The run is in the middle of the stream: it has read the bytes `before`. -/
def Underway (before : List UInt8) (run : ConsumerRun) : Prop :=
  run.failure = none ∧ ∃ text, HasConsumed before run.drained text run.consumer

/-- Draining moves queued events to the drained ones and shows nothing else. -/
theorem perform_drain (run : ConsumerRun) :
    perform limits run .drain =
      { run with
        consumer := { run.consumer with
          events := []
          queuedTextChars :=
            if run.consumer.events = [] then run.consumer.queuedTextChars else 0 }
        drained := run.drained ++ run.consumer.events } := by
  rw [perform, drain_eq]

/-- Draining moves events, and shows the same. -/
theorem observed_drain (run : ConsumerRun) :
    (perform limits run .drain).observed = run.observed := by
  rw [perform_drain]
  simp [observed]

/-- A run that agrees agrees when it is drained. -/
theorem Agrees.drain (h : run.Agrees chars) : (perform limits run .drain).Agrees chars := by
  unfold Agrees
  rw [observed_drain, perform_drain]
  exact h

/-- In a run that has ended, every call but a drain does nothing. -/
theorem Ended.perform_eq (hended : run.Ended) (call : ConsumerCall) :
    run.perform limits call = run ∨ call = .drain := by
  rcases hended with hfailed | hcompleted
  · cases call with
    | pushBase64 encoded => exact .inl (if_pos hfailed)
    | finish => exact .inl (if_pos hfailed)
    | drain => exact .inr rfl
  · have hpush : ∀ encoded, ResponseStreamConsumer.pushBase64 limits encoded run.consumer =
        (.ok (), run.consumer) := fun encoded => by
      show (if _ then pure () else _ : ConsumerM Unit) run.consumer = _
      rw [if_pos (.inr hcompleted)]
      rfl
    have hfinish : ResponseStreamConsumer.finish limits run.consumer = (.ok (), run.consumer) := by
      show (if _ then pure () else _ : ConsumerM Unit) run.consumer = _
      rw [if_pos (.inr hcompleted)]
      rfl
    cases call with
    | pushBase64 encoded =>
      simp only [ConsumerRun.perform, hpush, after, ite_self]
      exact .inl trivial
    | finish =>
      simp only [ConsumerRun.perform, hfinish, after, ite_self]
      exact .inl trivial
    | drain => exact .inr rfl

/-- A run that has ended shows no more, whatever is called. -/
theorem Ended.perform (hended : run.Ended) (hagrees : run.Agrees chars) (call : ConsumerCall) :
    (run.perform limits call).Ended ∧ (run.perform limits call).Agrees chars := by
  rcases hended.perform_eq call with hsame | rfl
  · rw [hsame]
    exact ⟨hended, hagrees⟩
  · refine ⟨?_, hagrees.drain⟩
    rw [perform_drain]
    exact hended

/-- A specification of a consumer's method, for the run that calls it. -/
theorem after_of_wp {x : ConsumerM Unit} {P : ResponseStreamConsumer → Prop}
    (h : wp x (fun _ s' => P s' ∨ Completes chars run.drained s')
      (fun kind s' => kind = .parseFailed → FailsIn chars run.drained s') run.consumer)
    (hopen : run.failure = none) :
    (∃ s', run.after (x run.consumer) = { run with consumer := s' } ∧ P s') ∨
      (run.after (x run.consumer)).Ended ∧ (run.after (x run.consumer)).Agrees chars := by
  have happly := wp_apply h
  rcases hx : x run.consumer with ⟨kind | _, s'⟩
  · simp only [hx] at happly
    refine .inr ⟨.inl rfl, ?_⟩
    cases kind with
    | bufferOverflow => exact .inl rfl
    | parseFailed =>
      refine .inr ?_
      rw [(happly rfl).stream]
      simp [after, observed, (happly rfl).incomplete]
  · simp only [hx] at happly
    rcases happly with hnext | hcompletes
    · exact .inl ⟨s', rfl, hnext⟩
    · refine .inr ⟨.inr hcompletes.completed, .inr ?_⟩
      rw [hcompletes.stream]
      simp [after, observed, hopen, hcompletes.completed]

variable (limits) in
/-- A chunk or a drain in the middle of the stream. -/
theorem Underway.perform {before : List UInt8} {call : ConsumerCall} (rest : List UInt8)
    (h : run.Underway before) (hfeeding : call ≠ .finish)
    (hvalid : ∀ encoded, call = .pushBase64 encoded → Base64.isValid encoded)
    (hstream : before ++ call.bytes ++ rest = Utf8.encode chars) :
    (run.perform limits call).Underway (before ++ call.bytes) ∨
      (run.perform limits call).Ended ∧ (run.perform limits call).Agrees chars := by
  obtain ⟨hopen, text, hconsumed⟩ := h
  cases call with
  | pushBase64 encoded =>
    rw [ConsumerRun.perform, if_neg (by simp [hopen])]
    rcases after_of_wp (wp_pushBase64 hconsumed (hvalid _ rfl) hstream) hopen with
      ⟨s', hafter, hnext⟩ | hended
    · rw [hafter]
      exact .inl ⟨hopen, hnext⟩
    · exact .inr hended
  | finish => exact absurd rfl hfeeding
  | drain =>
    rw [perform_drain]
    obtain ⟨hdecoded, ⟨hread, hbuffer⟩, hactive⟩ := hconsumed
    refine .inl ⟨hopen, text, by simpa [ConsumerCall.bytes] using hdecoded, ⟨?_, hbuffer⟩, hactive⟩
    exact ⟨by simpa using hread.outcome_eq, hread.incomplete, hread.event, hread.data, hread.count⟩

/-- Finishing the whole stream. -/
theorem Underway.finish (h : run.Underway (Utf8.encode chars)) :
    (run.perform limits .finish).Agrees chars := by
  obtain ⟨hopen, text, hconsumed⟩ := h
  rw [ConsumerRun.perform, if_neg (by simp [hopen])]
  rcases after_of_wp (wp_finish hconsumed) hopen with
    ⟨s', hafter, hrunsOut⟩ | ⟨-, hagrees⟩
  · rw [hafter]
    refine .inr ?_
    rw [hrunsOut.stream]
    simp [observed, hopen, hrunsOut.incomplete]
  · exact hagrees

/-- Nor after any number of calls. -/
theorem performAll_ended (calls : List ConsumerCall) (hended : run.Ended)
    (hagrees : run.Agrees chars) :
    (run.performAll limits calls).Ended ∧ (run.performAll limits calls).Agrees chars := by
  induction calls generalizing run with
  | nil => exact ⟨hended, hagrees⟩
  | cons call calls ih =>
    obtain ⟨hended', hagrees'⟩ := hended.perform hagrees call
    exact ih hended' hagrees'

/-- Draining at the end shows the same. -/
theorem performAll_drains (drains : List ConsumerCall) (hdrains : ∀ call ∈ drains, call = .drain)
    (hagrees : run.Agrees chars) : (run.performAll limits drains).Agrees chars := by
  induction drains generalizing run with
  | nil => exact hagrees
  | cons call drains ih =>
    obtain rfl := hdrains call List.mem_cons_self
    exact ih (fun c hc => hdrains c (List.mem_cons_of_mem _ hc)) hagrees.drain

variable (limits) in
/-- Feeding a stream: what is left of it is what the remaining calls bring. -/
theorem performAll_underway {before : List UInt8} (rest : List UInt8) (calls : List ConsumerCall)
    (h : run.Underway before) (hfeeding : ∀ call ∈ calls, call ≠ .finish)
    (hvalid : ∀ encoded, .pushBase64 encoded ∈ calls → Base64.isValid encoded)
    (hstream : before ++ calls.flatMap ConsumerCall.bytes ++ rest = Utf8.encode chars) :
    (run.performAll limits calls).Underway (before ++ calls.flatMap ConsumerCall.bytes) ∨
      (run.performAll limits calls).Ended ∧ (run.performAll limits calls).Agrees chars := by
  induction calls generalizing run before with
  | nil => exact .inl (by simpa [performAll] using h)
  | cons call calls ih =>
    rw [List.flatMap_cons, ← List.append_assoc] at hstream ⊢
    have hvalid' : ∀ encoded, call = .pushBase64 encoded → Base64.isValid encoded := by
      rintro encoded rfl
      exact hvalid encoded List.mem_cons_self
    have hstep := h.perform limits (calls.flatMap ConsumerCall.bytes ++ rest)
      (hfeeding call List.mem_cons_self) hvalid' (by rw [← hstream]; simp)
    rcases hstep with hnext | ⟨hended, hagrees⟩
    · exact ih hnext (fun c hc => hfeeding c (List.mem_cons_of_mem _ hc))
        (fun e he => hvalid e (List.mem_cons_of_mem _ he)) hstream
    · exact .inr (performAll_ended calls hended hagrees)

end ConsumerRun

open ConsumerRun in
/-- A stream that is fed in chunks, finished, and drained at any time: unless a limit is hit, the
events, the record whose parsing fails and completion are those of the stream read as a whole, and
a last drain brings out every event that was not drained before. -/
theorem consumer_reads_stream (limits : ConsumerLimits) (chars : List Char)
    (feeding drains : List ConsumerCall)
    (hfeeding : ∀ call ∈ feeding, call ≠ .finish)
    (hvalid : ∀ encoded, .pushBase64 encoded ∈ feeding → Base64.isValid encoded)
    (hstream : feeding.flatMap ConsumerCall.bytes = Utf8.encode chars)
    (hdrains : ∀ call ∈ drains, call = .drain)
    (hbound : (performAll limits {} (feeding ++ .finish :: drains)).failure ≠
      some .bufferOverflow) :
    (performAll limits {} (feeding ++ .finish :: drains)).observed = readStream chars ∧
      (perform limits (performAll limits {} (feeding ++ .finish :: drains)) .drain).drained =
        (readStream chars).events := by
  have hstart : ({} : ConsumerRun).Underway [] :=
    ⟨rfl, [], TextDecoder.hasRead_nil, ⟨⟨rfl, rfl, rfl, rfl, rfl⟩, rfl⟩, rfl⟩
  have hfed := performAll_underway limits [] feeding hstart hfeeding hvalid
    (by simpa using hstream)
  rw [List.nil_append, hstream] at hfed
  have hfinished : ((performAll limits {} feeding).perform limits .finish).Agrees chars := by
    rcases hfed with hunderway | ⟨hended, hagrees⟩
    · exact hunderway.finish
    · exact (hended.perform hagrees _).2
  have hall : (performAll limits {} (feeding ++ .finish :: drains)).Agrees chars := by
    rw [performAll, List.foldl_append]
    exact performAll_drains drains hdrains hfinished
  rcases hall with hoverflow | hobserved
  · exact absurd hoverflow hbound
  · refine ⟨hobserved, ?_⟩
    rw [← hobserved, perform_drain]
    rfl

/-- A stream with a character of two bytes and a carriage return before a line feed. -/
def splitStream : List Char :=
  "event: delta\ndata: \x7b\"v\":\"é\"\x7d\r\n\r\ndata: [DONE]\n\n".toList

/-- Chunks that cut that stream inside the character and before the line feed. -/
def splitCalls : List ConsumerCall :=
  [.pushBase64 (Text.of "ZXZlbnQ6IGRlbHRhCmRhdGE6IHsidiI6IsM="), .drain,
    .pushBase64 (Text.of "qSJ9DQ=="), .pushBase64 (Text.of "Cg0KZGF0YTogW0RPTkVdCgo=")]

open ConsumerRun in
/-- The two chunks are read as the stream that they make up. -/
theorem consumer_reads_stream_split :
    (performAll {} {} (splitCalls ++ [.finish, .drain])).observed = readStream splitStream ∧
      (perform {} (performAll {} {} (splitCalls ++ [.finish, .drain])) .drain).drained =
        (readStream splitStream).events := by
  refine consumer_reads_stream {} splitStream splitCalls [.drain] (by decide) ?_
    (by decide +kernel) (by decide) (by decide +kernel)
  intro encoded hencoded
  simp only [splitCalls, List.mem_cons, ConsumerCall.pushBase64.injEq, reduceCtorEq, false_or,
    List.not_mem_nil, or_false] at hencoded
  rcases hencoded with rfl | rfl | rfl <;> decide +kernel

end ResponseStreamConsumer

end Threadwire
