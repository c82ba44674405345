import Threadwire.Domain.Errors
import Threadwire.Machine.Runs
import Threadwire.Text.Json
import Threadwire.Text.Utf8Buffer
import Threadwire.Text.WhatwgUrl

/-!
# Target discovery

`cdp/CdpTargetDiscovery.ts`: the target list that the endpoint answers with, the choice of the one
page that Threadwire drives, and the search that polls the endpoint under a deadline. The search is
a machine: its inputs are the answers of the list client, the timers, and the stop of the signal
that `withTimeout` hands to it, whether by the deadline or by the caller.

The URL parser for other schemes, the host parser and the error of `JSON.parse` are parameters; the
client's own HTTP exchange is left to its answer.
-/

namespace Whatwg

/-- The value of a hexadecimal digit. -/
def hexValue? (b : UInt8) : Option UInt8 :=
  if 0x30 ≤ b ∧ b ≤ 0x39 then some (b - 0x30)
  else if 0x41 ≤ b ∧ b ≤ 0x46 then some (b - 0x37)
  else if 0x61 ≤ b ∧ b ≤ 0x66 then some (b - 0x57)
  else none

/-- Percent-decode. -/
def percentDecode : List UInt8 → List UInt8
  | [] => []
  | 0x25 :: high :: low :: rest =>
    match hexValue? high, hexValue? low with
    | some high, some low => (16 * high + low) :: percentDecode rest
    | _, _ => 0x25 :: percentDecode (high :: low :: rest)
  | b :: rest => b :: percentDecode rest

/-- A name or a value of the `application/x-www-form-urlencoded` parser. -/
def decodeFormPart (part : List UInt8) : Text :=
  Utf8.toText (percentDecode (part.map fun b => if b = 0x2B then 0x20 else b))

/-- `[...url.searchParams.entries()]`. -/
def Url.searchParams (url : Url) : List (Text × Text) :=
  let bytes := (url.query.getD []).flatMap String.utf8EncodeChar
  ((bytes.splitOn 0x26).filter (!·.isEmpty)).map fun sequence =>
    (decodeFormPart (sequence.takeWhile (· != 0x3D)),
      decodeFormPart ((sequence.dropWhile (· != 0x3D)).drop 1))

end Whatwg

namespace Threadwire

open Whatwg (UrlPlatform)

/-! ## The target list -/

/-- `CdpTargetInfo`. -/
structure CdpTargetInfo where
  id : Text
  title : Text
  type : Text
  description : Text
  webSocketDebuggerUrl : Option Text
  url : Text
deriving DecidableEq, Repr

/-- What the platform brings: the URL parser's parts and the error of `JSON.parse`. -/
structure DiscoveryPlatform where
  url : UrlPlatform
  syntaxError : Text → ThrownError

/-- A platform that parses the hosts that are names. -/
def DiscoveryPlatform.plain : DiscoveryPlatform where
  url := { parseHost := some, parseOther := fun _ _ => none, otherOrigin := fun _ => [] }
  syntaxError := fun _ => .plain "Unexpected token in JSON"

/-- `new CdpTargetListMalformedError()`. -/
def targetListMalformed : ThrownError := .ofCode .cdpTargetListMalformed

/-- A string that a target must have. -/
def requiredText : Option Json.Value → Except ThrownError Text
  | some (.string text) => .ok text
  | _ => .error targetListMalformed

/-- A string that a target may have. -/
def optionalText : Option Json.Value → Except ThrownError (Option Text)
  | none => .ok none
  | some (.string text) => .ok (some text)
  | _ => .error targetListMalformed

/-- A string that a target must have, and that is not empty. -/
def nonemptyText (value : Option Json.Value) : Except ThrownError Text := do
  let text ← requiredText value
  if text = [] then .error targetListMalformed else .ok text

/-- `parseTarget`. -/
def parseTarget (value : Json.Value) : Except ThrownError CdpTargetInfo :=
  match value with
  | .object members => do
    let field := fun name : String => (Json.Value.object members).property? (Text.of name)
    let id ← nonemptyText (field "id")
    let type ← nonemptyText (field "type")
    let url ← requiredText (field "url")
    let title ← optionalText (field "title")
    let description ← optionalText (field "description")
    let webSocketDebuggerUrl ← optionalText (field "webSocketDebuggerUrl")
    .ok { id, title := title.getD [], type, description := description.getD []
          webSocketDebuggerUrl, url }
  | _ => .error targetListMalformed

/-- `parseCdpTargetList`. -/
def parseCdpTargetList (platform : DiscoveryPlatform) (body : Text) :
    Except ThrownError (List CdpTargetInfo) :=
  match Json.parse body with
  | none => .error (targetListMalformed.withCause (some (platform.syntaxError body)))
  | some (.array items) => items.mapM parseTarget
  | some _ => .error targetListMalformed

/-! ## The choice -/

/-- `parseTargetUrl`. The parser replaces lone surrogates. -/
def parseTargetUrl (platform : UrlPlatform) (target : CdpTargetInfo) : Option Whatwg.Url :=
  Whatwg.parse platform (target.url.codePoints.map Char.ofNat)

/-- `isKnownChatbarTarget`. -/
def isKnownChatbarTarget (url : Whatwg.Url) : Bool :=
  url.pathname == ['/'] && url.hash == [] && url.searchParams.length == 1 &&
    url.searchParams.head?.map Prod.snd == some (Text.of "chatbar_view")

/-- The URL is one of ChatGPT's. -/
def isChatGptUrl (url : Whatwg.Url) : Bool :=
  url.protocol == "https:".toList && url.hostname == "chatgpt.com".toList

/-- The first loop of `selectPrimaryChatGptTarget`. -/
def eligibleTargets (platform : UrlPlatform) :
    List CdpTargetInfo → Except ThrownError (List (CdpTargetInfo × Whatwg.Url))
  | [] => .ok []
  | target :: targets =>
    if target.type ≠ Text.of "page" then eligibleTargets platform targets
    else
      match parseTargetUrl platform target with
      | none => .error targetListMalformed
      | some url =>
        if !isChatGptUrl url then eligibleTargets platform targets
        else if target.webSocketDebuggerUrl.getD [] = [] then .error targetListMalformed
        else (eligibleTargets platform targets).map ((target, url) :: ·)

/-- What `selectPrimaryChatGptTarget` makes of the eligible targets. -/
def selectEligible : List (CdpTargetInfo × Whatwg.Url) → Except ThrownError CdpTargetInfo
  | [] => .error (.ofCode .cdpTargetNotFound)
  | [(target, url)] =>
    if isKnownChatbarTarget url then .error (.ofCode .cdpTargetNotFound) else .ok target
  | [first, second] =>
    if ([first, second].filter (isKnownChatbarTarget ·.2)).length = 1 then
      match [first, second].find? (!isKnownChatbarTarget ·.2) with
      | some (target, _) => .ok target
      | none => .error (.ofCode .cdpTargetAmbiguous)
    else .error (.ofCode .cdpTargetAmbiguous)
  | _ => .error (.ofCode .cdpTargetAmbiguous)

/-- `selectPrimaryChatGptTarget`. -/
def selectPrimaryChatGptTarget (platform : UrlPlatform) (targets : List CdpTargetInfo) :
    Except ThrownError CdpTargetInfo :=
  (eligibleTargets platform targets).bind selectEligible

/-! ## The search -/

/-- Where the loop of `findPrimaryTarget` is. `resuming` is the time between the timer of the delay
and the next request; an `ended` loop has settled the promise that `withTimeout` races. -/
inductive SearchPhase where
  | called
  | requesting
  | delaying
  | resuming
  | ended (outcome : Except ThrownError CdpTargetInfo)

/-- The variables of `findPrimaryTarget`: `stopped` is the reason of the signal inside
`withTimeout`, `raced` what its race came to, `result` what the caller gets. -/
structure TargetSearch where
  phase : SearchPhase := .called
  sawValidTargetList : Bool := false
  stopped : Option ThrownError := none
  raced : Option (Except ThrownError CdpTargetInfo) := none
  result : Option (Except ThrownError CdpTargetInfo) := none

/-- What can happen to the search: its callback starts, the client answers, the timer of the delay
fires, the loop goes on after it, the deadline passes, the caller's signal is aborted, the loop's
promise wins the race, and `findPrimaryTarget` goes on after the race. -/
inductive SearchInput where
  | start
  | answered (answer : Except ThrownError Text)
  | timer
  | resume
  | deadline
  | aborted (reason : Option ThrownError)
  | finish
  | settle

/-- The error that the deadline stops the signal with. -/
def discoveryTimeoutError : ThrownError :=
  .ofCodeMessage .operationTimeout "Timed out discovering the ChatGPT CDP target."

/-- The error that `onParentAbort` stops the signal with. -/
def parentAbortError (reason : Option ThrownError) : ThrownError :=
  (ThrownError.ofCode .operationAborted).withCause reason

/-- `getTargets`, from the client's answer. -/
def targetsOf (platform : DiscoveryPlatform) (answer : Except ThrownError Text) :
    Except ThrownError (List CdpTargetInfo) :=
  answer.bind (parseCdpTargetList platform)

/-- The errors after which the loop tries again. -/
def isRetried (error : ThrownError) : Bool :=
  error.isInstance .cdpTargetNotFound || error.isInstance .cdpEndpointUnavailable

/-- The `catch` of `findPrimaryTarget`. -/
def concludeSearch (sawValidTargetList : Bool) :
    Except ThrownError CdpTargetInfo → Except ThrownError CdpTargetInfo
  | .ok target => .ok target
  | .error error =>
    if error.isInstance .operationTimeout then
      .error ((ThrownError.ofCode
        (if sawValidTargetList then .cdpTargetNotFound else .cdpEndpointTimeout)).withCause error)
    else .error error

namespace TargetSearch

variable (platform : DiscoveryPlatform)

/-- The `catch` of the loop, up to its `delay`, which throws where the signal is stopped. -/
def failed (error : ThrownError) (s : TargetSearch) : TargetSearch :=
  if !isRetried error then { s with phase := .ended (.error error) }
  else
    match s.stopped with
    | some reason => { s with phase := .ended (.error (abortedError reason)) }
    | none => { s with phase := .delaying }

/-- The client has answered. -/
def answered (answer : Except ThrownError Text) (s : TargetSearch) : TargetSearch :=
  match targetsOf platform answer with
  | .error error => s.failed error
  | .ok targets =>
    let s := { s with sawValidTargetList := true }
    match selectPrimaryChatGptTarget platform.url targets with
    | .error error => s.failed error
    | .ok target => { s with phase := .ended (.ok target) }

/-- The signal is stopped; a race that is over, and a signal that is stopped, stay as they are. A
delay rejects, and the race is lost. -/
def stop (reason : ThrownError) (s : TargetSearch) : TargetSearch :=
  match s.raced, s.stopped with
  | none, none =>
    { s with
      stopped := some reason
      raced := some (.error (abortedError reason))
      phase :=
        match s.phase with
        | .delaying => .ended (.error (abortedError reason))
        | phase => phase }
  | _, _ => s

/-- The loop's promise wins the race if it is the first. -/
def finish (s : TargetSearch) : Option TargetSearch :=
  match s.phase, s.raced with
  | .ended outcome, none => some { s with raced := some outcome }
  | _, _ => none

/-- `findPrimaryTarget` settles. -/
def settle (s : TargetSearch) : Option TargetSearch :=
  match s.raced, s.result with
  | some outcome, none =>
    some { s with result := some (concludeSearch s.sawValidTargetList outcome) }
  | _, _ => none

/-- One input; `none` where it cannot occur. -/
def step (s : TargetSearch) : SearchInput → Option TargetSearch
  | .start =>
    match s.phase with
    | .called => some { s with phase := .requesting }
    | _ => none
  | .answered answer =>
    match s.phase with
    | .requesting => some (s.answered platform answer)
    | _ => none
  | .timer =>
    match s.phase with
    | .delaying => some { s with phase := .resuming }
    | _ => none
  | .resume =>
    match s.phase with
    | .resuming => some { s with phase := .requesting }
    | _ => none
  | .deadline => some (s.stop discoveryTimeoutError)
  | .aborted reason => some (s.stop (parentAbortError reason))
  | .finish => s.finish
  | .settle => s.settle

/-- `findPrimaryTarget` is called; `withTimeout` throws at once where the caller's signal is
aborted. -/
def initial : Option (Option ThrownError) → TargetSearch
  | none => {}
  | some reason =>
    { phase := .ended (.error (abortedError reason)), raced := some (.error (abortedError reason)) }

end TargetSearch

end Threadwire
