import Threadwire.Effect.Basic
import Threadwire.Text.Base64
import Threadwire.Text.Json

/-!
# The response stream consumer

`response/ResponseStreamConsumer.ts`: an incremental parser of server-sent events. Chunks of a byte
stream come in as base64 texts; records are dispatched as soon as they are complete, and the events
they produce are queued until they are drained. All limits are parameters, `ConsumerLimits`.

`dispatched`, the number of records dispatched so far, is not a field of the source. It says at
which record a failure occurs.
-/

namespace Threadwire

/-- `NormalizedResponseStreamEvent`. -/
inductive NormalizedResponseStreamEvent where
  | textDelta (text : Text)
  | completed
deriving DecidableEq, Repr

/-- `ResponseStreamConsumerFailureKind`, the kind of a `ResponseStreamConsumerError`. -/
inductive ResponseStreamConsumerFailureKind where
  | parseFailed
  | bufferOverflow
deriving DecidableEq, Repr

/-- `ResponseStreamConsumerOptions`, with the defaults of the constructor. -/
structure ConsumerLimits where
  maxEncodedChunkChars : ℕ := 1398104
  maxQueuedEvents : ℕ := 1024
  maxQueuedTextChars : ℕ := 1048576
  maxPendingTextChars : ℕ := 1048576
  maxPendingDataLines : ℕ := 4096
deriving DecidableEq, Repr

/-- `ResponseStreamConsumer`. -/
structure ResponseStreamConsumer where
  decoder : TextDecoder := {}
  events : List NormalizedResponseStreamEvent := []
  queuedTextChars : ℕ := 0
  textBuffer : Text := []
  eventName : Option Text := none
  dataLines : List Text := []
  pendingDataChars : ℕ := 0
  completedState : Bool := false
  disposed : Bool := false
  dispatched : ℕ := 0
deriving DecidableEq, Repr

/-- A method of the consumer. -/
abbrev ConsumerM := Effect ResponseStreamConsumer ResponseStreamConsumerFailureKind

namespace ResponseStreamConsumer

/-- The line feed, the carriage return, the colon and the space. -/
def LF : UInt16 := 0x0A
def CR : UInt16 := 0x0D
def COLON : UInt16 := 0x3A
def SPACE : UInt16 := 0x20

/-- `ASSISTANT_TEXT_PATCH_PATH` and `ASSISTANT_TEXT_PATCH_OPERATION`. -/
def ASSISTANT_TEXT_PATCH_PATH : Text := Text.of "/message/content/parts/0"
def ASSISTANT_TEXT_PATCH_OPERATION : Text := Text.of "append"

/-- `line.endsWith("\r") ? line.slice(0, -1) : line`. -/
def withoutCR (line : Text) : Text :=
  if line.getLast? = some CR then line.dropLast else line

/-- The field and the value of a line: what is before the first colon, and what is after it, less
one leading space. -/
def fieldAndValue (line : Text) : Text × Text :=
  let (field, value) :=
    match line.idxOf? COLON with
    | none => (line, [])
    | some colonIndex => (line.take colonIndex, line.drop (colonIndex + 1))
  (field, if value.head? = some SPACE then value.tail else value)

/-- `dataLines.join("\n")`. -/
def joinLines (lines : List Text) : Text := List.intercalate [LF] lines

/-- The text of a patch that appends to the assistant's message. Only an object has properties. -/
def patchText (patch : Json.Value) : Option Text :=
  match patch.property? (Text.of "p"), patch.property? (Text.of "o"),
      patch.property? (Text.of "v") with
  | some (.string path), some (.string operation), some (.string text) =>
    if path = ASSISTANT_TEXT_PATCH_PATH ∧ operation = ASSISTANT_TEXT_PATCH_OPERATION then some text
    else none
  | _, _, _ => none

section Methods

variable (limits : ConsumerLimits)

/-- `assertPendingTextBound`. -/
def assertPendingTextBound : ConsumerM Unit := do
  let s ← get
  let pending := s.textBuffer.length + (s.eventName.elim 0 List.length) + s.pendingDataChars
  if limits.maxPendingTextChars < pending then throw .bufferOverflow else pure ()

/-- `emit`. -/
def emit (event : NormalizedResponseStreamEvent) : ConsumerM Unit := do
  let s ← get
  if limits.maxQueuedEvents ≤ s.events.length then throw .bufferOverflow
  else
    match event with
    | .textDelta text =>
      if limits.maxQueuedTextChars < s.queuedTextChars + text.length then throw .bufferOverflow
      else set { s with
        queuedTextChars := s.queuedTextChars + text.length, events := s.events ++ [event] }
    | .completed => set { s with events := s.events ++ [event] }

/-- `resetRecord`. -/
def resetRecord : ConsumerM Unit :=
  modify fun s => { s with eventName := none, dataLines := [], pendingDataChars := 0 }

/-- The body of `dispatchRecord`'s loop over the patches of a delta. -/
def emitPatch (patch : Json.Value) : ConsumerM Unit :=
  match patchText patch with
  | some text => emit limits (.textDelta text)
  | none => pure ()

/-- The loop of `dispatchRecord` over the patches of a delta. -/
def emitPatches : List Json.Value → ConsumerM Unit
  | [] => pure ()
  | patch :: patches => do
    emitPatch limits patch
    emitPatches patches

/-- The end of `dispatchRecord`: what a parsed delta record says. -/
def emitDelta (parsed : Json.Value) : ConsumerM Unit :=
  if (parsed.property? (Text.of "role")).isSome then pure ()
  else
    match parsed.property? (Text.of "v") with
    | some (.string text) => emit limits (.textDelta text)
    | some (.array patches) => emitPatches limits patches
    | _ => pure ()

/-- `dispatchRecord`. -/
def dispatchRecord : ConsumerM Unit := do
  let s ← get
  if s.completedState then resetRecord
  else
    set { s with dispatched := s.dispatched + 1 }
    if s.dataLines = [] then resetRecord
    else
      let eventName := s.eventName.getD (Text.of "message")
      let data := joinLines s.dataLines
      resetRecord
      if data = Text.of "[DONE]" then
        emit limits .completed
        modify fun s => { s with completedState := true, textBuffer := [] }
      else if eventName ≠ Text.of "delta" then pure ()
      else
        match Json.parse data with
        | none => throw .parseFailed
        | some parsed => emitDelta limits parsed

/-- `consumeLine`. -/
def consumeLine (line : Text) : ConsumerM Unit := do
  let s ← get
  if s.completedState then pure ()
  else if line = [] then dispatchRecord limits
  else if line.head? = some COLON then pure ()
  else
    let (field, value) := fieldAndValue line
    if field = Text.of "event" then
      set { s with eventName := some value }
      assertPendingTextBound limits
    else if field = Text.of "data" then
      if limits.maxPendingDataLines ≤ s.dataLines.length then throw .bufferOverflow
      else
        set { s with
          pendingDataChars :=
            s.pendingDataChars + value.length + (if s.dataLines = [] then 0 else 1)
          dataLines := s.dataLines ++ [value] }
        assertPendingTextBound limits
    else pure ()

/-- The loop of `pushDecoded`. Every iteration takes a line feed off the buffer, so the length of
the buffer bounds their number. -/
def pushLines : (fuel : ℕ) → ConsumerM Unit
  | 0 => pure ()
  | fuel + 1 => do
    let s ← get
    if s.completedState then pure ()
    else
      match s.textBuffer.idxOf? LF with
      | none => pure ()
      | some newlineIndex =>
        let line := withoutCR (s.textBuffer.take newlineIndex)
        set { s with textBuffer := s.textBuffer.drop (newlineIndex + 1) }
        consumeLine limits line
        assertPendingTextBound limits
        pushLines fuel

/-- `pushDecoded`. -/
def pushDecoded (decoded : Text) : ConsumerM Unit := do
  let s ← get
  if decoded = [] ∨ s.completedState then pure ()
  else
    set { s with textBuffer := s.textBuffer ++ decoded }
    assertPendingTextBound limits
    pushLines limits (s.textBuffer.length + decoded.length + 1)

/-- `pushBase64`. -/
def pushBase64 (encoded : Text) : ConsumerM Unit := do
  let s ← get
  if s.disposed ∨ s.completedState then pure ()
  else if limits.maxEncodedChunkChars < encoded.length then throw .bufferOverflow
  else if ¬ Base64.isValid encoded then throw .parseFailed
  else
    match s.decoder.decodeStream (Base64.decode encoded) with
    | none => throw .parseFailed
    | some (decoder, decoded) =>
      set { s with decoder := decoder }
      pushDecoded limits decoded

/-- The part of `finish` for a line that no line feed ended. -/
def consumeTail : ConsumerM Unit := do
  let s ← get
  if 0 < s.textBuffer.length then
    set { s with textBuffer := [] }
    consumeLine limits (withoutCR s.textBuffer)
  else pure ()

/-- `finish`. -/
def finish : ConsumerM Unit := do
  let s ← get
  if s.disposed ∨ s.completedState then pure ()
  else
    match s.decoder.decodeEnd with
    | none => throw .parseFailed
    | some (decoder, decoded) =>
      set { s with decoder := decoder }
      pushDecoded limits decoded
      consumeTail limits
      dispatchRecord limits

end Methods

/-- `drain`. -/
def drain : ConsumerM (List NormalizedResponseStreamEvent) := do
  let s ← get
  if s.events = [] then pure []
  else
    set { s with events := [], queuedTextChars := 0 }
    pure s.events

/-- `stop`. -/
def stop (s : ResponseStreamConsumer) : ResponseStreamConsumer :=
  { s with
    disposed := true, textBuffer := [], eventName := none, dataLines := [], pendingDataChars := 0 }

/-- `dispose`. -/
def dispose (s : ResponseStreamConsumer) : ResponseStreamConsumer :=
  { s.stop with events := [], queuedTextChars := 0 }

end ResponseStreamConsumer

end Threadwire
