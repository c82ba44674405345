import Mathlib.Algebra.Group.Int.Defs
import Mathlib.Data.List.Sort
import Threadwire.Domain.RuntimeGeneration
import Threadwire.Text.Json

/-!
# The budget of a known notice

`readiness/FreshNoticeBudget.ts`: an intent, which a file of the ledger describes, permits one click.
A budget reads the intent once and is consumed by creating a second file, exclusively, so that two
budgets of one intent cannot both be consumed, whether they are of one process or not.

What the file system answers is part of the ledger and arbitrary, up to the second file: where it
exists, an exclusive creation fails.
-/

namespace Threadwire

/-- `NoticeDocument`. -/
structure NoticeDocument where
  frameId : String
  loaderId : String
deriving DecidableEq, Repr

/-- The record of a consumption. -/
structure ConsumedRecord where
  intent : Text
  authority : Text
  consumedUtc : String
  authoritySha256 : String
  runtimeLease : RuntimeLease
  document : NoticeDocument
deriving DecidableEq, Repr

/-- The file of a consumption: the call of `consume` that has created it, where it was one, and what
this has written. -/
structure ConsumedFile where
  openedBy : Option ℕ
  record : Option ConsumedRecord := none
deriving DecidableEq, Repr

/-- The ledger directory, for one intent. `pathStats` says of each part of the intent's path whether
it is a symbolic link. -/
structure NoticeLedger where
  pathStats : List (Except ThrownError Bool) := []
  intentIsFile : Except ThrownError Bool := .ok true
  intentFile : Except ThrownError (List UInt8)
  openFault : Option ThrownError := none
  writeFault : Option ThrownError := none
  fsyncFault : Option ThrownError := none
  closeFault : Option ThrownError := none
  now : String
  consumedFile : Option ConsumedFile := none

/-- What the language's library computes: the number of a JSON spelling, where it is finite, and a
digest. -/
structure NoticeLibrary where
  toNumber : Text → Option Rat
  sha256 : List UInt8 → String

/-- `FRESH_NOTICE_INTENT_SCHEMA`. -/
def FRESH_NOTICE_INTENT_SCHEMA : String := "THREADWIRE_KNOWN_FRESH_NOTICE_INTENT_V1"

/-- `NOTICE_UUID`. -/
def isNoticeUuid (text : Text) : Bool :=
  (text.splitOn 0x2D).map List.length == [8, 4, 4, 4, 12] &&
    text.all fun c => Json.isDigit c || (0x61 ≤ c && c ≤ 0x66) || c == 0x2D

/-- The format of a creation time. -/
def isCreationTime (text : Text) : Bool :=
  let format := Text.of "0000-00-00T00:00:00.0000000Z"
  text.length == format.length &&
    (text.zip format).all fun (c, f) => if f = 0x30 then Json.isDigit c else c == f

/-- A safe integer that is not below one. -/
def isRootPid (n : Rat) : Bool := n.den == 1 && 1 ≤ n.num && n.num < 2 ^ 53

/-- `FreshNoticeBudget`. -/
structure FreshNoticeBudget where
  intent : Text
  bytes : List UInt8
  authority : Text
  rootPid : Rat
  rootCreationTime : Text
  spent : Bool := false

namespace FreshNoticeBudget

variable (library : NoticeLibrary)

/-- What `reject` throws. -/
def rejected : ThrownError :=
  .ofCodeMessage .cdpReadinessFailed "Known-notice authority is unavailable."

/-- `if (condition) reject()`. -/
def rejectIf (condition : Bool) : Except ThrownError Unit :=
  if condition then .error rejected else .ok ()

/-- `assertNoLinks`, from the file up. -/
def assertNoLinks : List (Except ThrownError Bool) → Except ThrownError Unit
  | [] => .ok ()
  | stat :: stats => do
    let isSymbolicLink ← stat
    rejectIf isSymbolicLink
    assertNoLinks stats

/-- The text of the intent's file. -/
def decode (bytes : List UInt8) : Except ThrownError Text := do
  match ({} : TextDecoder).decodeStream bytes with
  | none => throw (.plain "The encoded data was not valid for encoding utf-8")
  | some (decoder, text) =>
    match decoder.decodeEnd with
    | none => throw (.plain "The encoded data was not valid for encoding utf-8")
    | some _ => pure text

/-- The names of the members of an object, each once, in order and separated by commas. -/
def memberNames (members : List (Text × Json.Value)) : Text :=
  let names := ((members.map Prod.fst).dedup).insertionSort fun a b => a ≤ b
  (names.intersperse [0x2C]).flatten

/-- A property whose type is `string`. -/
def textProperty (value : Json.Value) (name : String) : Option Text :=
  match value.property? (Text.of name) with
  | some (.string text) => some text
  | _ => none

/-- A property whose type is `number`, where it is finite. -/
def numberProperty (value : Json.Value) (name : String) : Option Rat :=
  match value.property? (Text.of name) with
  | some (.number spelling) => library.toNumber spelling
  | _ => none

/-- The intent that the file describes. -/
def readIntent (intent : Text) (bytes : List UInt8) (value : Json.Value) :
    Option FreshNoticeBudget := do
  let .object members := value | none
  guard (memberNames members =
    Text.of "authority,intent,rootCreationTime,rootPid,schema,scope")
  guard (textProperty value "schema" = some (Text.of FRESH_NOTICE_INTENT_SCHEMA))
  guard (textProperty value "intent" = some intent)
  let authority ← textProperty value "authority"
  guard (isNoticeUuid authority)
  guard (textProperty value "scope" = some (Text.of "DISMISS_KNOWN_FRESH_NOTICE_ONCE"))
  let rootPid ← numberProperty library value "rootPid"
  guard (isRootPid rootPid)
  let rootCreationTime ← textProperty value "rootCreationTime"
  guard (isCreationTime rootCreationTime)
  pure { intent, bytes, authority, rootPid, rootCreationTime }

/-- The constructor. -/
def create (intent : Text) (ledger : NoticeLedger) : Except ThrownError FreshNoticeBudget := do
  rejectIf (!isNoticeUuid intent)
  assertNoLinks ledger.pathStats
  let isFile ← ledger.intentIsFile
  rejectIf (!isFile)
  let bytes ← ledger.intentFile
  rejectIf (bytes.length == 0 || 4096 < bytes.length)
  let text ← decode bytes
  match Json.parse text with
  | none => throw (.plain "Unexpected token in JSON")
  | some value =>
    match readIntent library intent bytes value with
    | none => throw rejected
    | some budget => pure { budget with spent := ledger.consumedFile.isSome }

/-- The checks of `consume` that look at no file. -/
def assertConsumable (budget : FreshNoticeBudget) (lease : RuntimeLease)
    (document : NoticeDocument) : Except ThrownError Unit :=
  rejectIf (budget.spent || (lease.identity.pid : Rat) != budget.rootPid ||
    Text.of lease.identity.creationTime != budget.rootCreationTime ||
    document.frameId == "" || document.loaderId == "" ||
    256 < (Text.of document.frameId).length || 256 < (Text.of document.loaderId).length)

/-- The check that the intent's file has not changed. -/
def assertUnchanged (budget : FreshNoticeBudget) (ledger : NoticeLedger) :
    Except ThrownError Unit := do
  let bytes ← ledger.intentFile
  rejectIf (bytes != budget.bytes)

/-- `openSync(consumedPath, "wx")` by a call. -/
def openConsumed (ledger : NoticeLedger) (call : ℕ) : Except ThrownError NoticeLedger :=
  match ledger.openFault, ledger.consumedFile with
  | some error, _ => .error error
  | none, some _ => .error (.plain "EEXIST: file already exists")
  | none, none => .ok { ledger with consumedFile := some { openedBy := some call } }

/-- The record that `consume` writes. -/
def consumedRecord (budget : FreshNoticeBudget) (ledger : NoticeLedger) (lease : RuntimeLease)
    (document : NoticeDocument) : ConsumedRecord where
  intent := budget.intent
  authority := budget.authority
  consumedUtc := ledger.now
  authoritySha256 := library.sha256 budget.bytes
  runtimeLease := lease
  document := document

/-- `writeSync`. -/
def writeConsumed (ledger : NoticeLedger) (record : ConsumedRecord) : NoticeLedger :=
  { ledger with
    consumedFile := ledger.consumedFile.map fun file => { file with record := some record } }

/-- The `finally` of `consume`, after an outcome of its `try`. -/
def closeConsumed (ledger : NoticeLedger) (outcome : Except ThrownError Unit) :
    Except ThrownError Unit :=
  match ledger.closeFault with
  | some error => .error error
  | none => outcome

end FreshNoticeBudget

end Threadwire
