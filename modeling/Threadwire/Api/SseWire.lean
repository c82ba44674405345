import Threadwire.Api.HttpTurn
import Threadwire.Response.StreamReference
import Threadwire.Text.Spelling

/-!
# The frames of a turn, read back

What a client reads from the concatenated texts of server-sent frames, under the line rules of
`response/ResponseStreamConsumer.ts`: lines end at line feeds, a field and its value split at the
first colon, data lines are joined, and an empty line dispatches. `read_frames` says that the client
sees the frames and nothing else, whatever the texts in them are: a spelling has no line end, so no
text can end its line.
-/

namespace Threadwire

open ResponseStreamConsumer StreamReference

/-- The events of a turn that are sent on, `Exclude<ResponseStreamEvent, { type: "COMPLETED" }>`. -/
inductive TextEvent where
  | textDelta (text : Text)
  | finalText (text : Text)
deriving DecidableEq, Repr

/-- The frame `deliverEvent` writes for an event. -/
def TextEvent.frame : TextEvent → SseFrame
  | .textDelta text => .ofText "TEXT_DELTA" text
  | .finalText text => .ofText "FINAL_TEXT" text

/-- What a client sees: an event of the turn, how the turn ended, or something else. -/
inductive ClientEvent where
  | text (event : TextEvent)
  | completed (data : Text)
  | error (data : Text)
  | other (event data : Text)
deriving DecidableEq, Repr

namespace ClientEvent

/-- `JSON.parse(data).text`. -/
def textOf (data : Text) : Option Text :=
  match (Json.parse data).bind (·.property? (Text.of "text")) with
  | some (.string units) => some units
  | _ => none

/-- What a dispatched event says. -/
def ofEvent (event data : Text) : ClientEvent :=
  if event = Text.of "TEXT_DELTA" then
    (textOf data).elim (.other event data) fun text => .text (.textDelta text)
  else if event = Text.of "FINAL_TEXT" then
    (textOf data).elim (.other event data) fun text => .text (.finalText text)
  else if event = Text.of "COMPLETED" then .completed data
  else if event = Text.of "ERROR" then .error data
  else .other event data

/-- What a record dispatches; without data it dispatches nothing. -/
def ofRecord (record : StreamRecord) : Option ClientEvent :=
  if record.data = [] then none
  else some (ofEvent (record.event.getD (Text.of "message")) (joinLines record.data))

/-- What a client reads. Only an empty line dispatches: a record that is still open says nothing. -/
def read (wire : Text) : List ClientEvent := (recordsOf (streamLines wire)).filterMap ofRecord

end ClientEvent

/-! ## Lines -/

/-- A text without control characters. -/
def SingleLine (text : Text) : Prop := ∀ c ∈ text, 0x20 ≤ c

/-- Single lines join to a single line. -/
theorem SingleLine.append {a b : Text} (ha : SingleLine a) (hb : SingleLine b) :
    SingleLine (a ++ b) := by
  intro c hc
  rcases List.mem_append.mp hc with hc | hc
  · exact ha c hc
  · exact hb c hc

/-- The test of a text without control characters. -/
theorem singleLine_of_all {text : Text} (h : text.all (0x20 ≤ ·) = true) : SingleLine text := by
  intro c hc
  exact of_decide_eq_true (List.all_eq_true.mp h c hc)

/-- A text that is written in the source is checked by evaluation. -/
theorem singleLine_ofList {chars : List Char}
    (h : (chars.flatMap fun c => encodeUtf16 c.toNat).all (0x20 ≤ ·) = true) :
    SingleLine (Text.of (String.ofList chars)) := by
  rw [Text.of_ofList]
  exact singleLine_of_all h

/-- JSON escapes every control character of a string. -/
theorem singleLine_quote (text : Text) : SingleLine (Text.quote text) :=
  fun _ => Text.le_of_mem_quote

/-- A single line has no line feed. -/
theorem SingleLine.ne_LF {text : Text} (h : SingleLine text) : ∀ c ∈ text, isLF c = false := by
  intro c hc
  rw [isLF, beq_eq_false_iff_ne]
  rintro rfl
  exact absurd (h LF hc) (by decide)

/-- A single line has no carriage return to take off. -/
theorem SingleLine.withoutCR {text : Text} (h : SingleLine text) : withoutCR text = text := by
  rw [ResponseStreamConsumer.withoutCR, if_neg]
  intro hlast
  exact absurd (h CR (List.mem_of_getLast? hlast)) (by decide)

/-- The first line of a text. -/
theorem streamLines_line {line : Text} (text : Text) (h : SingleLine line) :
    streamLines (line ++ LF :: text) = line :: streamLines text := by
  obtain ⟨hcomplete, hremainder⟩ :=
    Segments.of_first (p := isLF) (l := text) (x := LF) h.ne_LF (by decide)
  rw [streamLines, streamLines, hcomplete, hremainder, List.map_cons, h.withoutCR, List.cons_append]

/-- The first record of a sequence of lines. -/
theorem recordsOf_record {record : List Text} (lines : List Text)
    (h : ∀ line ∈ record, line.isEmpty = false) :
    recordsOf (record ++ [] :: lines) = recordOf record :: recordsOf lines := by
  rw [recordsOf, recordsOf, (Segments.of_first h rfl).1, List.map_cons]

/-! ## Frames -/

namespace SseFrame

/-- A field's line, whose value starts after the colon and the space. -/
theorem fieldAndValue_line {field : Text} (value : Text) (h : COLON ∉ field) :
    fieldAndValue (field ++ COLON :: SPACE :: value) = (field, value) := by
  have hindex : (field ++ COLON :: SPACE :: value).idxOf? COLON = some field.length := by
    rw [List.idxOf?, List.findIdx?_append, List.findIdx?_eq_none_iff.mpr]
    · simp [List.findIdx?_cons]
    · intro c hc
      rw [beq_eq_false_iff_ne]
      rintro rfl
      exact h hc
  rw [fieldAndValue, hindex]
  simp

/-- The names of the two fields. -/
theorem of_event : Text.of "event" = [0x65, 0x76, 0x65, 0x6E, 0x74] := Text.of_ofList _
/-- The field name, as the units that the lines are cut at. -/
theorem of_data : Text.of "data" = [0x64, 0x61, 0x74, 0x61] := Text.of_ofList _

/-- A field's line is not a comment. -/
theorem addLine_field (record : StreamRecord) {field : Text} (value : Text) (hfield : field ≠ [])
    (h : COLON ∉ field) :
    addLine record (field ++ COLON :: SPACE :: value) =
      if field = Text.of "event" then { record with event := some value }
      else if field = Text.of "data" then { record with data := record.data ++ [value] }
      else record := by
  have hhead : (field ++ COLON :: SPACE :: value).head? ≠ some COLON := by
    obtain ⟨first, others, rfl⟩ := List.exists_cons_of_ne_nil hfield
    rw [List.cons_append, List.head?_cons]
    rintro ⟨⟩
    exact h List.mem_cons_self
  rw [addLine, if_neg hhead, fieldAndValue_line value h]

/-- The line that names the event, and the line that has the data. -/
def eventLine (frame : SseFrame) : Text := Text.of "event: " ++ Text.of frame.event
def dataLine (frame : SseFrame) : Text := Text.of "data: " ++ frame.data

/-- A reader takes the event line of a frame as the name of the event. -/
theorem addLine_eventLine (record : StreamRecord) (frame : SseFrame) :
    addLine record frame.eventLine = { record with event := some (Text.of frame.event) } := by
  have hline : frame.eventLine = Text.of "event" ++ COLON :: SPACE :: Text.of frame.event := by
    have hname : Text.of "event: " = Text.of "event" ++ [COLON, SPACE] := by
      rw [of_event]
      exact Text.of_ofList _
    rw [eventLine, hname, List.append_assoc]
    rfl
  have hfield : Text.of "event" ≠ [] ∧ COLON ∉ Text.of "event" := by
    rw [of_event]
    decide
  rw [hline, addLine_field record _ hfield.1 hfield.2, if_pos rfl]

/-- A reader takes the data line of a frame as one line of data. -/
theorem addLine_dataLine (record : StreamRecord) (frame : SseFrame) :
    addLine record frame.dataLine = { record with data := record.data ++ [frame.data] } := by
  have hline : frame.dataLine = Text.of "data" ++ COLON :: SPACE :: frame.data := by
    have hname : Text.of "data: " = Text.of "data" ++ [COLON, SPACE] := by
      rw [of_data]
      exact Text.of_ofList _
    rw [dataLine, hname, List.append_assoc]
    rfl
  have hfield : Text.of "data" ≠ [] ∧ COLON ∉ Text.of "data" ∧
      Text.of "data" ≠ Text.of "event" := by
    rw [of_data, of_event]
    decide
  rw [hline, addLine_field record _ hfield.1 hfield.2.1, if_neg hfield.2.2, if_pos rfl]

/-- A frame is its two lines and an empty one. -/
theorem text_eq (frame : SseFrame) :
    frame.text = frame.eventLine ++ LF :: (frame.dataLine ++ LF :: [LF]) := by
  have hdata : Text.of "\ndata: " = LF :: Text.of "data: " := by
    rw [Text.of_ofList, Text.of_ofList]
    rfl
  have hend : Text.of "\n\n" = [LF, LF] := Text.of_ofList _
  rw [text, hdata, hend, eventLine, dataLine]
  simp

/-- The name and the data of a frame are single lines. -/
structure WellFormed (frame : SseFrame) : Prop where
  event : SingleLine (Text.of frame.event)
  data : SingleLine frame.data

/-- The first frame of a stream, whatever follows it. -/
theorem WellFormed.streamLines_text {frame : SseFrame} (h : frame.WellFormed) (rest : Text) :
    streamLines (frame.text ++ rest) =
      [frame.eventLine, frame.dataLine] ++ [] :: streamLines rest := by
  have hevent : SingleLine frame.eventLine :=
    (singleLine_ofList rfl).append h.event
  have hdata : SingleLine frame.dataLine := (singleLine_ofList rfl).append h.data
  have hempty : SingleLine [] := fun _ hc => absurd hc List.not_mem_nil
  rw [text_eq, List.append_assoc, List.cons_append, List.append_assoc, List.cons_append,
    List.singleton_append, streamLines_line _ hevent, streamLines_line _ hdata]
  exact congrArg (fun lines => frame.eventLine :: frame.dataLine :: lines)
    (streamLines_line rest hempty)

/-- The first record of a stream is that of its first frame. -/
theorem WellFormed.recordsOf_text {frame : SseFrame} (h : frame.WellFormed) (rest : Text) :
    recordsOf (streamLines (frame.text ++ rest)) =
      { event := some (Text.of frame.event), data := [frame.data] } ::
        recordsOf (streamLines rest) := by
  have hlines : ∀ line ∈ [frame.eventLine, frame.dataLine], line.isEmpty = false := by
    intro line hline
    rcases List.mem_cons.mp hline with rfl | hline
    · rfl
    · rw [List.mem_singleton.mp hline, dataLine]
      rfl
  have hrecord : recordOf [frame.eventLine, frame.dataLine] =
      { event := some (Text.of frame.event), data := [frame.data] } := by
    rw [recordOf, List.foldl_cons, List.foldl_cons, List.foldl_nil, addLine_eventLine,
      addLine_dataLine]
    rfl
  rw [h.streamLines_text, recordsOf_record _ hlines, hrecord]

/-- What a client sees of a frame. -/
def clientEvent (frame : SseFrame) : ClientEvent := .ofEvent (Text.of frame.event) frame.data

/-- The client sees the frames and nothing else. -/
theorem read_frames {frames : List SseFrame} (h : ∀ frame ∈ frames, frame.WellFormed) :
    ClientEvent.read (frames.flatMap text) = frames.map clientEvent := by
  unfold ClientEvent.read
  induction frames with
  | nil => rfl
  | cons frame frames ih =>
    rw [List.flatMap_cons, (h frame List.mem_cons_self).recordsOf_text, List.filterMap_cons,
      ih fun f hf => h f (List.mem_cons_of_mem _ hf)]
    simp [ClientEvent.ofRecord, joinLines, clientEvent, List.intercalate]

/-! ## The frames of a turn -/

/-- The data of a text event is an object whose only member is its text. -/
theorem parse_ofText (event : String) (value : Text) :
    Json.parse (ofText event value).data = some (.object [(Text.of "text", .string value)]) := by
  have hopen : Text.of "\x7b\"text\":" = [0x7B] ++ Text.quote (Text.of "text") ++ [0x3A] := by
    rw [Text.of_ofList, Text.of_ofList]
    rfl
  have hclose : Text.of "\x7d" = [0x7D] := Text.of_ofList _
  rw [ofText, hopen, hclose]
  exact Json.parse_object_string

/-- The text of an event is read back from its data. -/
theorem textOf_ofText (event : String) (value : Text) :
    ClientEvent.textOf (ofText event value).data = some value := by
  rw [ClientEvent.textOf, parse_ofText]
  simp [Json.Value.property?]

/-- The client sees an event with exactly its text. -/
theorem clientEvent_textEvent (event : TextEvent) : event.frame.clientEvent = .text event := by
  cases event with
  | textDelta value =>
    show ClientEvent.ofEvent (Text.of "TEXT_DELTA") (ofText "TEXT_DELTA" value).data = _
    rw [ClientEvent.ofEvent, if_pos rfl, textOf_ofText]
    rfl
  | finalText value =>
    show ClientEvent.ofEvent (Text.of "FINAL_TEXT") (ofText "FINAL_TEXT" value).data = _
    rw [ClientEvent.ofEvent, if_neg (Text.of_ofList_ne (by decide)), if_pos rfl, textOf_ofText]
    rfl

/-- The client sees a turn's completion, with its data. -/
theorem clientEvent_completed (result : TurnResult) :
    (completed result).clientEvent = .completed (completed result).data := by
  show ClientEvent.ofEvent (Text.of "COMPLETED") (completed result).data = _
  rw [ClientEvent.ofEvent, if_neg (Text.of_ofList_ne (by decide)),
    if_neg (Text.of_ofList_ne (by decide)), if_pos rfl]

/-- The client sees the public error that was sent. -/
theorem clientEvent_ofError (error : ApiError) :
    (ofError error).clientEvent = .error (publicErrorText error) := by
  show ClientEvent.ofEvent (Text.of "ERROR") (publicErrorText error) = _
  rw [ClientEvent.ofEvent, if_neg (Text.of_ofList_ne (by decide)),
    if_neg (Text.of_ofList_ne (by decide)),
    if_neg (Text.of_ofList_ne (by decide)), if_pos rfl]

/-- A frame that carries a text is well formed, whatever the text is. -/
theorem wellFormed_ofText {event : String} (value : Text) (h : SingleLine (Text.of event)) :
    (ofText event value).WellFormed := by
  have hopen : SingleLine (Text.of "\x7b\"text\":") := singleLine_ofList rfl
  have hclose : SingleLine (Text.of "\x7d") := singleLine_ofList rfl
  exact ⟨h, (hopen.append (singleLine_quote value)).append hclose⟩

/-- Every event of a turn is sent in a well-formed frame. -/
theorem wellFormed_textEvent (event : TextEvent) : event.frame.WellFormed := by
  cases event with
  | textDelta value => exact wellFormed_ofText value (singleLine_ofList rfl)
  | finalText value => exact wellFormed_ofText value (singleLine_ofList rfl)

/-- A Boolean is written without control characters. -/
theorem singleLine_boolText (b : Bool) : SingleLine (boolText b) := by
  cases b
  · exact singleLine_ofList rfl
  · exact singleLine_ofList rfl

/-- The completion is sent in a well-formed frame. -/
theorem wellFormed_completed (result : TurnResult) : (completed result).WellFormed := by
  have hevent : SingleLine (Text.of "COMPLETED") := singleLine_ofList rfl
  have hhandle : SingleLine (Text.of "\x7b\"threadHandle\":") :=
    singleLine_ofList rfl
  have hcreated : SingleLine (Text.of ",\"newlyRegistered\":") :=
    singleLine_ofList rfl
  have hclose : SingleLine (Text.of "\x7d") := singleLine_ofList rfl
  exact ⟨hevent, (((hhandle.append (singleLine_quote _)).append hcreated).append
    (singleLine_boolText _)).append hclose⟩

/-- An error is sent in a well-formed frame. -/
theorem wellFormed_ofError (error : ApiError) : (ofError error).WellFormed := by
  have hevent : SingleLine (Text.of "ERROR") := singleLine_ofList rfl
  have hcode : SingleLine (Text.of "\x7b\"error\":\x7b\"code\":") :=
    singleLine_ofList rfl
  have hmessage : SingleLine (Text.of ",\"message\":") := singleLine_ofList rfl
  have hretryable : SingleLine (Text.of ",\"retryable\":") := singleLine_ofList rfl
  have hclose : SingleLine (Text.of "\x7d\x7d") := singleLine_ofList rfl
  exact ⟨hevent, (((((hcode.append (singleLine_quote _)).append hmessage).append
    (singleLine_quote _)).append hretryable).append (singleLine_boolText _)).append hclose⟩

end SseFrame

end Threadwire
