import Threadwire.Api.PublicError
import Threadwire.Text.JsonRecord
import Threadwire.Text.Utf8Buffer
import Threadwire.Turn.Types

/-!
# The request bodies

What `api/ThreadwireHttpServer.ts` reads from the bodies of its requests: the bytes with their
limit, the JSON text, and the three request types. `readBody_law` says that the chunks of a body do
not matter, and what is kept of a body that is too long.
-/

namespace Threadwire

/-- The request that is refused as malformed. -/
def requestInvalid : ApiError := .request .API_REQUEST_INVALID 400

/-- `asRecord`. What `JSON.parse` makes of an object has the prototype of all objects. -/
def asRecord : Json.Value → Option Json.Value
  | .object members => some (.object members)
  | _ => none

/-- `hasExactKeys`. -/
def hasExactKeys (record : Json.Value) (keys : List Text) : Bool :=
  Json.sortKeys record.keys == Json.sortKeys keys

/-- A handle: `/^<mark>[A-Za-z0-9_-]{1,128}$/`. -/
def parseHandle (mark : String) : Option Json.Value → Except ApiError String
  | some (.string units) =>
    let value := units.map fun unit => Char.ofNat unit.toNat
    let opaqueId := value.drop mark.length
    if value.take mark.length = mark.toList ∧ 1 ≤ opaqueId.length ∧ opaqueId.length ≤ 128 ∧
        opaqueId.all isOpaqueIdChar = true then
      .ok (String.ofList value)
    else .error requestInvalid
  | _ => .error requestInvalid

/-- `parseThreadHandle`. -/
def parseThreadHandle : Option Json.Value → Except ApiError ThreadHandle := parseHandle "tw_"

/-- `parseProjectHandle`. -/
def parseProjectHandle : Option Json.Value → Except ApiError ProjectHandle := parseHandle "prj_"

/-- The kinds of `parseTurnRequest`, with the keys that each has. -/
def parseTargetRecord (target : Json.Value) : Except ApiError ControllerTurnTarget :=
  match target.property? (Text.of "kind") with
  | some (.string kind) =>
    if kind = Text.of "FRESH" then
      if !hasExactKeys target [Text.of "kind"] then .error requestInvalid else .ok .fresh
    else if kind = Text.of "THREAD" then
      if !hasExactKeys target [Text.of "kind", Text.of "threadHandle"] then .error requestInvalid
      else (parseThreadHandle (target.property? (Text.of "threadHandle"))).map .thread
    else if kind = Text.of "PROJECT" then
      if !hasExactKeys target [Text.of "kind", Text.of "projectHandle"] then .error requestInvalid
      else (parseProjectHandle (target.property? (Text.of "projectHandle"))).map .project
    else .error requestInvalid
  | _ => .error requestInvalid

/-- The part of `parseTurnRequest` that reads the target. -/
def parseTurnTarget (value : Option Json.Value) : Except ApiError ControllerTurnTarget :=
  match value.bind asRecord with
  | none => .error requestInvalid
  | some target => parseTargetRecord target

/-- `parseTurnRequest`. -/
def parseTurnRequest (maxPromptBytes : ℕ) (value : Json.Value) :
    Except ApiError ControllerTurnRequest :=
  match asRecord value with
  | none => .error requestInvalid
  | some body =>
    if !hasExactKeys body [Text.of "target", Text.of "prompt"] then .error requestInvalid
    else
      match body.property? (Text.of "prompt") with
      | some (.string prompt) =>
        if prompt = [] then .error requestInvalid
        else if maxPromptBytes < prompt.byteLength then .error (.request .API_REQUEST_TOO_LARGE 413)
        else
          (parseTurnTarget (body.property? (Text.of "target"))).map fun target => { target, prompt }
      | _ => .error requestInvalid

/-- `parseProjectRequest`: the name. -/
def parseProjectRequest (unicode : UnicodePlatform) (value : Json.Value) : Except ApiError Text :=
  match asRecord value with
  | none => .error requestInvalid
  | some body =>
    if !hasExactKeys body [Text.of "name"] then .error requestInvalid
    else
      match body.property? (Text.of "name") with
      | some (.string name) => (createProjectName unicode name).mapError fun _ => requestInvalid
      | _ => .error requestInvalid

/-- `parseRuntimeRecoveryRequest`. -/
def parseRuntimeRecoveryRequest (value : Json.Value) : Except ApiError Unit :=
  match asRecord value with
  | none => .error requestInvalid
  | some body => if !hasExactKeys body [] then .error requestInvalid else .ok ()

/-! ## The bytes -/

/-- The variables of `readBody`. -/
structure BodyReader where
  chunks : List (List UInt8) := []
  total : ℕ := 0
  exceeded : Bool := false
deriving DecidableEq, Repr

namespace BodyReader

/-- One chunk. Past the limit nothing is kept, and `total` stays above it. -/
def push (maxBodyBytes : ℕ) (reader : BodyReader) (chunk : List UInt8) : BodyReader :=
  let reader := { reader with total := min (maxBodyBytes + 1) (reader.total + chunk.length) }
  if maxBodyBytes < reader.total then { reader with exceeded := true, chunks := [] }
  else if !reader.exceeded then { reader with chunks := reader.chunks ++ [chunk] }
  else reader

/-- `Buffer.concat(chunks, total)`, which cuts off or fills up with zeros. -/
def concat (reader : BodyReader) : List UInt8 :=
  let bytes := reader.chunks.flatten
  (bytes ++ List.replicate (reader.total - bytes.length) 0).take reader.total

/-- The end of the body. -/
def finish (reader : BodyReader) : Except ApiError Text :=
  if reader.exceeded then .error (.request .API_REQUEST_TOO_LARGE 413)
  else .ok (Utf8.toText reader.concat)

/-- The reader after some chunks. -/
def pushAll (maxBodyBytes : ℕ) (reader : BodyReader) (chunks : List (List UInt8)) : BodyReader :=
  chunks.foldl (push maxBodyBytes) reader

end BodyReader

/-- `readBody`. -/
def readBody (maxBodyBytes : ℕ) (chunks : List (List UInt8)) : Except ApiError Text :=
  (BodyReader.pushAll maxBodyBytes {} chunks).finish

/-- What a handler makes of the text of a body: `JSON.parse` throws where it is no JSON text, and
the handler answers that as it answers a malformed request. -/
def parseBody {α : Type} (parse : Json.Value → Except ApiError α) (text : Text) :
    Except ApiError α :=
  match Json.parse text with
  | none => .error requestInvalid
  | some value => parse value

/-! ## What the reader of a body keeps -/

namespace BodyReader

variable {maxBodyBytes : ℕ} {reader : BodyReader} {bytes : List UInt8}

/-- The reader of a body of which these bytes have come. -/
structure HasRead (maxBodyBytes : ℕ) (reader : BodyReader) (bytes : List UInt8) : Prop where
  total : reader.total = min (maxBodyBytes + 1) bytes.length
  exceeded : reader.exceeded = decide (maxBodyBytes < bytes.length)
  kept : reader.chunks.flatten = if maxBodyBytes < bytes.length then [] else bytes

theorem hasRead_nil : HasRead maxBodyBytes {} [] where
  total := rfl
  exceeded := rfl
  kept := by simp

theorem HasRead.push (h : HasRead maxBodyBytes reader bytes) (chunk : List UInt8) :
    HasRead maxBodyBytes (reader.push maxBodyBytes chunk) (bytes ++ chunk) := by
  have htotal : min (maxBodyBytes + 1) (reader.total + chunk.length) =
      min (maxBodyBytes + 1) (bytes ++ chunk).length := by
    rw [h.total, List.length_append]
    omega
  unfold BodyReader.push
  by_cases hlimit : maxBodyBytes < (bytes ++ chunk).length
  · rw [htotal, if_pos (by show maxBodyBytes < min _ _; omega)]
    exact ⟨rfl, (decide_eq_true hlimit).symm, by rw [if_pos hlimit]; rfl⟩
  · have hbefore : ¬maxBodyBytes < bytes.length := by
      rw [List.length_append] at hlimit
      omega
    have hexceeded : reader.exceeded = false := by rw [h.exceeded, decide_eq_false hbefore]
    rw [htotal, if_neg (by show ¬maxBodyBytes < min _ _; omega), if_pos (by rw [hexceeded]; rfl)]
    refine ⟨rfl, by rw [decide_eq_false hlimit]; exact hexceeded, ?_⟩
    rw [if_neg hlimit, List.flatten_append, h.kept, if_neg hbefore, List.flatten_singleton]

theorem HasRead.pushAll (h : HasRead maxBodyBytes reader bytes) (chunks : List (List UInt8)) :
    HasRead maxBodyBytes (reader.pushAll maxBodyBytes chunks) (bytes ++ chunks.flatten) := by
  induction chunks generalizing reader bytes with
  | nil => rwa [List.flatten_nil, List.append_nil]
  | cons chunk chunks ih =>
    have hrest := ih (h.push chunk)
    rwa [List.append_assoc] at hrest

theorem HasRead.finish (h : HasRead maxBodyBytes reader bytes) :
    reader.finish =
      if maxBodyBytes < bytes.length then .error (.request .API_REQUEST_TOO_LARGE 413)
      else .ok (Utf8.toText bytes) := by
  rw [BodyReader.finish, h.exceeded]
  by_cases hlimit : maxBodyBytes < bytes.length
  · rw [if_pos (decide_eq_true hlimit), if_pos hlimit]
  · have hkept := h.kept
    have htotal : reader.total = bytes.length := by
      rw [h.total]
      omega
    rw [if_neg hlimit] at hkept
    rw [if_neg (by rw [decide_eq_false hlimit]; decide), if_neg hlimit, concat, hkept, htotal,
      Nat.sub_self, List.replicate_zero, List.append_nil, List.take_length]

/-- What is kept is within the limit. -/
theorem HasRead.length_le (h : HasRead maxBodyBytes reader bytes) :
    reader.chunks.flatten.length ≤ maxBodyBytes := by
  rw [h.kept]
  split_ifs with hlimit
  · exact Nat.zero_le _
  · exact Nat.not_lt.mp hlimit

end BodyReader

/-- The body is its bytes, however they are cut into chunks: they are refused exactly when there are
more than the limit, and at no time more than the limit is kept. -/
theorem readBody_law (maxBodyBytes : ℕ) (chunks : List (List UInt8)) :
    (readBody maxBodyBytes chunks =
      if maxBodyBytes < chunks.flatten.length then .error (.request .API_REQUEST_TOO_LARGE 413)
      else .ok (Utf8.toText chunks.flatten)) ∧
    (BodyReader.pushAll maxBodyBytes {} chunks).chunks.flatten.length ≤ maxBodyBytes :=
  ⟨(BodyReader.hasRead_nil.pushAll chunks).finish,
    (BodyReader.hasRead_nil.pushAll chunks).length_le⟩

end Threadwire
