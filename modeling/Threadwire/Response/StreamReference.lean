import Threadwire.Collections.Segments
import Threadwire.Response.ResponseStreamConsumer

/-!
# The response stream, read as a whole

The reference reading of a response stream: the text is cut into lines at its line feeds, the lines
into records at the empty lines, and the records are interpreted one after the other until one of
them completes the stream or cannot be parsed. Nothing here knows of chunks, buffers or limits.

The lemmas at the end are about a reading that has seen some lines of a stream: the records that are
complete so far, the record that is still open, and when further lines change nothing any more.
-/

namespace Threadwire

open ResponseStreamConsumer

/-- A record: its event name and its data lines. -/
structure StreamRecord where
  event : Option Text := none
  data : List Text := []
deriving DecidableEq, Repr

/-- What a record says. -/
inductive RecordMeaning where
  | texts (texts : List Text)
  | done
  | invalid

/-- What a whole stream says: its events, the record that could not be parsed, and whether it
completed. -/
structure StreamOutcome where
  events : List NormalizedResponseStreamEvent := []
  failedAt : Option ℕ := none
  completed : Bool := false
deriving DecidableEq, Repr

namespace StreamReference

/-- Whether a unit is a line feed. -/
def isLF (c : UInt16) : Bool := c == LF

/-- The lines of a text: its segments at the line feeds, each less one carriage return before it; a
tail without a line feed counts unless it is empty. -/
def streamLines (text : Text) : List Text :=
  (Segments.complete isLF text).map withoutCR ++
    if Segments.remainder isLF text = [] then [] else [withoutCR (Segments.remainder isLF text)]

/-- Add a line to a record. Comments and unknown fields say nothing. -/
def addLine (record : StreamRecord) (line : Text) : StreamRecord :=
  if line.head? = some COLON then record
  else
    let (field, value) := fieldAndValue line
    if field = Text.of "event" then { record with event := some value }
    else if field = Text.of "data" then { record with data := record.data ++ [value] }
    else record

/-- The record of a group of lines. -/
def recordOf (lines : List Text) : StreamRecord := lines.foldl addLine {}

/-- The texts of a delta record. -/
def deltaTexts (parsed : Json.Value) : List Text :=
  if (parsed.property? (Text.of "role")).isSome then []
  else
    match parsed.property? (Text.of "v") with
    | some (.string text) => [text]
    | some (.array patches) => patches.filterMap patchText
    | _ => []

/-- What a record says. -/
def meaning (record : StreamRecord) : RecordMeaning :=
  if record.data = [] then .texts []
  else if joinLines record.data = Text.of "[DONE]" then .done
  else if record.event.getD (Text.of "message") ≠ Text.of "delta" then .texts []
  else
    match Json.parse (joinLines record.data) with
    | none => .invalid
    | some parsed => .texts (deltaTexts parsed)

/-- Interpret records until one of them ends the reading. -/
def outcome : List StreamRecord → StreamOutcome
  | [] => {}
  | record :: records =>
    match meaning record with
    | .texts texts =>
      let rest := outcome records
      { rest with
        events := texts.map .textDelta ++ rest.events
        failedAt := rest.failedAt.map (· + 1) }
    | .done => { events := [.completed], completed := true }
    | .invalid => { failedAt := some 0 }

/-- What a sequence of lines says: the lines between two empty ones make a record. -/
def readLines (lines : List Text) : StreamOutcome :=
  outcome ((lines.splitOnP List.isEmpty).map recordOf)

/-- What a stream of characters says. -/
def readStream (chars : List Char) : StreamOutcome :=
  readLines (streamLines (TextDecoder.textOf chars))

/-! ## Reading a growing sequence of lines -/

/-- The records that an empty line has ended. -/
def recordsOf (lines : List Text) : List StreamRecord :=
  (Segments.complete List.isEmpty lines).map recordOf

/-- The record after the last empty line. -/
def openRecord (lines : List Text) : StreamRecord := recordOf (Segments.remainder List.isEmpty lines)

theorem readLines_eq (lines : List Text) :
    readLines lines = outcome (recordsOf lines ++ [openRecord lines]) := by
  rw [readLines, Segments.splitOnP_eq, List.map_append]
  rfl

theorem records_snoc_empty (lines : List Text) :
    recordsOf (lines ++ [[]]) = recordsOf lines ++ [openRecord lines] ∧
      openRecord (lines ++ [[]]) = {} := by
  obtain ⟨hcomplete, hremainder⟩ :=
    Segments.snoc_separator (p := List.isEmpty) (l := lines) (x := ([] : Text)) rfl
  simp only [recordsOf, openRecord, hcomplete, hremainder, List.map_append]
  exact ⟨rfl, rfl⟩

theorem records_snoc {lines : List Text} {line : Text} (hline : line ≠ []) :
    recordsOf (lines ++ [line]) = recordsOf lines ∧
      openRecord (lines ++ [line]) = addLine (openRecord lines) line := by
  obtain ⟨hcomplete, hremainder⟩ :=
    Segments.snoc_other (p := List.isEmpty) (l := lines) (x := line) (by simpa using hline)
  rw [recordsOf, openRecord, openRecord, hcomplete, hremainder, recordOf, List.foldl_append]
  exact ⟨rfl, rfl⟩

/-- Records whose reading went through to their end are followed by the reading of the others. -/
theorem outcome_append {records more : List StreamRecord}
    (hopen : (outcome records).failedAt = none ∧ (outcome records).completed = false) :
    outcome (records ++ more) =
      { events := (outcome records).events ++ (outcome more).events
        failedAt := (outcome more).failedAt.map (· + records.length)
        completed := (outcome more).completed } := by
  induction records with
  | nil => simp [outcome]
  | cons record records ih =>
    rw [List.cons_append, outcome, outcome]
    rw [outcome] at hopen
    cases hmeaning : meaning record with
    | texts texts =>
      simp only [hmeaning, Option.map_eq_none_iff] at hopen
      simp only [ih hopen]
      simp [Function.comp_def, Nat.add_assoc, List.append_assoc]
    | done => simp [hmeaning] at hopen
    | invalid => simp [hmeaning] at hopen

/-- Records that end the reading hide whatever follows them. -/
theorem outcome_append_of_ended {records : List StreamRecord} (more : List StreamRecord)
    (hended : (outcome records).failedAt ≠ none ∨ (outcome records).completed = true) :
    outcome (records ++ more) = outcome records := by
  induction records with
  | nil => simp [outcome] at hended
  | cons record records ih =>
    rw [List.cons_append, outcome, outcome]
    rw [outcome] at hended
    cases hmeaning : meaning record with
    | texts texts =>
      have hrest : (outcome records).failedAt ≠ none ∨ (outcome records).completed = true := by
        simpa [hmeaning] using hended
      simp only [ih hrest]
    | done => rfl
    | invalid => rfl

/-- The lines read so far settle what the stream says, whatever lines follow. -/
def Settles (lines : List Text) (o : StreamOutcome) : Prop :=
  ∀ more, readLines (lines ++ more) = o

theorem Settles.append {lines : List Text} {o : StreamOutcome} (h : Settles lines o)
    (more : List Text) : Settles (lines ++ more) o := by
  intro rest
  rw [List.append_assoc]
  exact h _

theorem settles_of_ended (lines : List Text)
    (hended : (outcome (recordsOf lines)).failedAt ≠ none ∨
      (outcome (recordsOf lines)).completed = true) :
    Settles lines (outcome (recordsOf lines)) := by
  intro more
  obtain ⟨hcomplete, -⟩ := Segments.complete_append (p := List.isEmpty) lines more
  rw [readLines_eq, recordsOf, hcomplete, List.map_append, List.append_assoc]
  exact outcome_append_of_ended _ hended

end StreamReference

end Threadwire
