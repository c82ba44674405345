import Threadwire.Cdp.ChromeRemoteInterfaceHelpers
import Threadwire.Cdp.ChromeRemoteInterfaceSession
import Threadwire.Machine.Runs

/-!
# Navigation and load settlement

One call of `navigateAndWaitForLoadSettlement` of `cdp/ChromeRemoteInterfaceSession.ts`, with its
subscriptions, for any order in which answers, events of the page, timers and aborts come.

Between two awaits the function runs without interruption, so it is cut there: a phase names what it
awaits, and an answer is a step. The two listeners, which run between these steps, keep what
`Settlement` keeps of them among the operations of a session; `occur_eq` says so.
-/

namespace Threadwire

/-- The events of the page that are subscribed to. -/
inductive PageListener where
  | loadEventFired
  | frameStoppedLoading
deriving DecidableEq, Repr

/-- The subscription that an event goes to. -/
def PageEvent.listener : PageEvent → PageListener
  | .loadEventFired => .loadEventFired
  | .frameStoppedLoading _ => .frameStoppedLoading

/-- What happens around a call. `navigated` and `frameTreeRead` are answers as they are processed;
`disposed` is the call of the function that the subscription returned. -/
inductive NavigationEntry where
  | occurred (event : PageEvent)
  | subscribed (listener : PageListener)
  | initiated (url : String)
  | navigated (result : NavigateResult)
  | frameTreeRequested
  | frameTreeRead (url : String)
  | disposed (listener : PageListener)
  | returned
  | threw (error : ThrownError)
deriving DecidableEq, Repr

/-- What a call awaits: the answer of `Page.enable`, of `Page.navigate`, the race of the settlement
with a delay, the answer of `Page.getFrameTree`, the delay before the next one. -/
inductive NavigationPhase where
  | idle
  | enabling
  | navigating
  | waiting
  | reading
  | pausing
  | ended
deriving DecidableEq, Repr

/-- The arguments of a call, and its client: whether it has the methods that are looked for, and
whether a subscription returns a function. -/
structure NavigationSettings where
  platform : Whatwg.UrlPlatform
  url : String
  expectedRoute : RouteExpectation
  pageLifecycle : Bool
  disposes : PageListener → Bool

/-- The local variables of a call, the listeners that are subscribed, and the log. -/
structure NavigationCall where
  phase : NavigationPhase := .idle
  settlement : Settlement := {}
  settlementResolved : Bool := false
  listening : List PageListener := []
  unsubscribers : List PageListener := []
  aborted : Option (Option ThrownError) := none
  log : List NavigationEntry := []
deriving DecidableEq

/-- What the environment does. In `settled` the settlement wins its race; `elapsed` and `rejected`
are the ends of a delay. -/
inductive NavigationInput where
  | call (closed : Bool)
  | occur (event : PageEvent)
  | abort (reason : Option ThrownError)
  | enabled (answer : Except ThrownError Unit)
  | navigated (answer : Except ThrownError NavigateResult)
  | settled
  | elapsed
  | rejected
  | frameTree (answer : Except ThrownError PageFrame)

namespace NavigationCall

/-- Append to the log. -/
def record (c : NavigationCall) (entry : NavigationEntry) : NavigationCall :=
  { c with log := c.log ++ [entry] }

/-! ## The listeners -/

/-- `checkSettlement`. -/
def checkSettlement (c : NavigationCall) : NavigationCall :=
  if c.settlement.loadEventFired && c.settlement.matchingFrameStopped then
    { c with settlementResolved := true }
  else c

/-- The listener of `loadEventFired`. -/
def onLoadEventFired (c : NavigationCall) : NavigationCall :=
  if !c.settlement.navigationInitiated then c
  else checkSettlement { c with settlement := { c.settlement with loadEventFired := true } }

/-- The listener of `frameStoppedLoading`. -/
def onFrameStoppedLoading (c : NavigationCall) (frameId : Option String) : NavigationCall :=
  if !c.settlement.navigationInitiated then c
  else
    match frameId with
    | none => c
    | some frameId =>
      match c.settlement.targetFrameId with
      | some targetFrameId =>
        if frameId = targetFrameId then
          checkSettlement
            { c with settlement := { c.settlement with matchingFrameStopped := true } }
        else c
      | none =>
        { c with settlement :=
            { c.settlement with
              stoppedFrameIds := c.settlement.stoppedFrameIds ++ [frameId] } }

/-- An event of the page, which runs the listener if it is subscribed. -/
def occur (c : NavigationCall) (event : PageEvent) : NavigationCall :=
  let c := c.record (.occurred event)
  if event.listener ∈ c.listening then
    match event with
    | .loadEventFired => c.onLoadEventFired
    | .frameStoppedLoading frameId => c.onFrameStoppedLoading frameId
  else c

/-! ## The call -/

variable (settings : NavigationSettings)

/-- Subscribe to an event, and keep the function that disposes of the subscription. -/
def subscribe (c : NavigationCall) (listener : PageListener) : NavigationCall :=
  let c := { c.record (.subscribed listener) with listening := c.listening ++ [listener] }
  if settings.disposes listener then
    { c with unsubscribers := c.unsubscribers ++ [listener] }
  else c

/-- Dispose of a subscription. -/
def dispose (c : NavigationCall) (listener : PageListener) : NavigationCall :=
  { c.record (.disposed listener) with listening := c.listening.erase listener }

/-- Return or throw. -/
def settle (c : NavigationCall) (outcome : Except ThrownError Unit) : NavigationCall :=
  match outcome with
  | .ok () => { c.record .returned with phase := .ended }
  | .error error => { c.record (.threw error) with phase := .ended }

/-- The `finally`, on the way out. -/
def finish (c : NavigationCall) (outcome : Except ThrownError Unit) : NavigationCall :=
  (c.unsubscribers.foldl dispose c).settle outcome

/-- Leave the `try` with a new error. -/
def fail (c : NavigationCall) (message : String) : NavigationCall :=
  c.finish (.error (ThrownError.plain message))

/-- `throwIfAborted` in the `try`. -/
def unlessAborted (c : NavigationCall) (next : NavigationCall) : NavigationCall :=
  match c.aborted with
  | some reason => c.finish (.error (abortedError reason))
  | none => next

/-- The head of the loop that waits for the route: request the frame tree. -/
def awaitRoute (c : NavigationCall) : NavigationCall :=
  c.unlessAborted { c.record .frameTreeRequested with phase := .reading }

/-- The head of the loop that waits for the settlement. -/
def awaitSettlement (c : NavigationCall) : NavigationCall :=
  if !c.settlement.loadEventFired || !c.settlement.matchingFrameStopped then
    c.unlessAborted { c with phase := .waiting }
  else c.awaitRoute

/-- The call, up to `Page.enable`. -/
def call (c : NavigationCall) (closed : Bool) : NavigationCall :=
  if closed then c.settle (.error (ThrownError.plain "CDP session is closed."))
  else
    match c.aborted with
    | some reason => c.settle (.error (abortedError reason))
    | none =>
      if !settings.pageLifecycle then
        c.settle (.error (ThrownError.plain "CDP Page lifecycle observation is unavailable."))
      else
        { (c.subscribe settings .loadEventFired).subscribe settings .frameStoppedLoading with
          phase := .enabling }

/-- From the answer of `Page.enable` to `Page.navigate`. -/
def afterEnable (c : NavigationCall) : Except ThrownError Unit → NavigationCall
  | .error _ => c.fail "CDP Page.enable failed without retained protocol metadata."
  | .ok () =>
    c.unlessAborted
      { c.record (.initiated settings.url) with
        settlement := { c.settlement with navigationInitiated := true }
        phase := .navigating }

/-- Take over the frame that `Page.navigate` returned, which may have stopped already. -/
def target (c : NavigationCall) : Option String → NavigationCall
  | none => c
  | some frameId =>
    let c := { c with settlement := { c.settlement with targetFrameId := some frameId } }
    if c.settlement.stoppedFrameIds.contains frameId then
      checkSettlement { c with settlement := { c.settlement with matchingFrameStopped := true } }
    else c

/-- From the answer of `Page.navigate` to the first wait. -/
def afterNavigate (c : NavigationCall) : Except ThrownError NavigateResult → NavigationCall
  | .error _ => c.fail "CDP Page.navigate command failed without retained protocol metadata."
  | .ok result =>
    let c := c.record (.navigated result)
    if result.errorText.any fun errorText => errorText ≠ "" then
      c.fail "CDP Page.navigate reported a navigation error."
    else (c.target result.frameId).awaitSettlement

/-- From the answer of `Page.getFrameTree` to the return, or to the delay before the next one. -/
def afterFrameTree (c : NavigationCall) : Except ThrownError PageFrame → NavigationCall
  | .error _ => c.fail "CDP Page.getFrameTree failed without retained protocol metadata."
  | .ok frame =>
    let c := c.record (.frameTreeRead frame.url)
    if routeMatchesExpected settings.platform frame.url settings.expectedRoute then
      c.finish (.ok ())
    else { c with phase := .pausing }

/-- One step; `none` where the input cannot occur. -/
def step (c : NavigationCall) : NavigationInput → Option NavigationCall
  | .call closed => if c.phase = .idle then some (c.call settings closed) else none
  | .occur event => some (c.occur event)
  | .abort reason => if c.aborted = none then some { c with aborted := some reason } else none
  | .enabled answer => if c.phase = .enabling then some (c.afterEnable settings answer) else none
  | .navigated answer => if c.phase = .navigating then some (c.afterNavigate answer) else none
  | .settled =>
    if c.phase = .waiting ∧ c.settlementResolved then some c.awaitSettlement else none
  | .elapsed =>
    match c.phase with
    | .waiting => some c.awaitSettlement
    | .pausing => some c.awaitRoute
    | _ => none
  | .rejected =>
    match c.phase, c.aborted with
    | .waiting, some reason | .pausing, some reason =>
      some (c.finish (.error (abortedError reason)))
    | _, _ => none
  | .frameTree answer =>
    if c.phase = .reading then some (c.afterFrameTree settings answer) else none

end NavigationCall

end Threadwire
