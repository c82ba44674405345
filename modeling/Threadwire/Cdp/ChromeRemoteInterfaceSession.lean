import Mathlib.Algebra.Order.Ring.Unbundled.Rat
import Mathlib.Algebra.Ring.Rat
import Threadwire.Cdp.CdpSessionManager
import Threadwire.Effect.Coroutine
import Threadwire.Readiness.ReadinessGates
import Threadwire.Turn.TurnExecutor

/-!
# The operations of a CDP session

The mutating operations of `cdp/ChromeRemoteInterfaceSession.ts`, as coroutines over the sessions
that are open. What an operation sends to the client goes through a `SessionClient`, because a
session can be given a client that checks first (`cdp/MutationGuardedChromeRemoteInterfaceSession.ts`).

What the client answers is arbitrary. Of an accessibility tree the answer is what the session makes
of its nodes, and the scripts that the page evaluates are named by what they are for. The callbacks
that an operation is given act on `outer`, a state of their own.
-/

namespace Threadwire

/-! ## The client -/

/-- The scripts of `createProjectThroughUi`. -/
inductive ProjectScript where
  | openControl
  | focusNameInput
  | confirm (name : Text)
  | nameVisible (name : Text)
deriving DecidableEq, Repr

/-- The functions that are called on the composer, with their arguments. A form is named by its
object id. -/
inductive ComposerFunction where
  | projectForm (projectLocator : ProjectLocator) (text : Text)
  | projectRevalidation (projectLocator : ProjectLocator) (form : String)
  | projectVerification (projectLocator : ProjectLocator) (form : String) (text : Text)
  | projectValidation (projectLocator : ProjectLocator) (form : String) (text : Text)
  | projectClick (projectLocator : ProjectLocator) (form : String) (text : Text) (kind : String)
      (expectedHtml : Option String)
  | existingForm (conversationLocator : ConversationLocator) (text : Text)
  | existingValidation (conversationLocator : ConversationLocator) (form : String) (text : Text)
  | existingClick (conversationLocator : ConversationLocator) (form : String) (text : Text)
      (kind : String) (expectedHtml : Option String)
deriving DecidableEq, Repr

/-- The `type` of an Enter event. -/
inductive EnterEventType where
  | keyDown
  | keyUp
deriving DecidableEq, Repr

/-- The `type` of a `NoticeMouseCommand`. -/
inductive NoticeMouseType where
  | mousePressed
  | mouseReleased
deriving DecidableEq, Repr

/-- A point of the page. -/
structure NoticePoint where
  x : Rat
  y : Rat
deriving DecidableEq, Repr

/-- `NoticeMouseCommand`: a left click. -/
structure NoticeMouseCommand extends NoticePoint where
  type : NoticeMouseType
deriving DecidableEq, Repr

/-- The commands whose methods the guarded client replaces. -/
inductive InterceptedCommand where
  | navigate (url : String)
  | reload
  | focus (backendNodeId : Rat)
  | insertText (text : Text)
  | dispatchKeyEvent (type : EnterEventType)
  | dispatchMouseEvent (command : NoticeMouseCommand)
  | evaluate (expression : ProjectScript)
  | callFunctionOn (objectId : String) (function : ComposerFunction)
deriving DecidableEq, Repr

/-- The other commands. -/
inductive ObservingCommand where
  | enable
  | getFrameTree
  | getLayoutMetrics
  | getFullAXTree (frameId : String)
  | describeNode (backendNodeId : Rat) (depth : ℕ)
  | describeObject (objectId : String)
  | resolveNode (backendNodeId : Rat)
  | getContentQuads (backendNodeId : Rat)
  | getNodeForLocation (point : NoticePoint)
  | releaseObject (objectId : String)
  | close
deriving DecidableEq, Repr

/-- The result of `Page.navigate`. -/
structure NavigateResult where
  frameId : Option String
  errorText : Option String
deriving DecidableEq, Repr

/-- A value of the page. -/
inductive RemoteValue where
  | absent
  | null
  | boolean (value : Bool)
  | text (value : String)
  | validation (kind : String) (html : Option String)
  | other
deriving DecidableEq, Repr

/-- The result of a script or a function. -/
structure RemoteResult where
  value : RemoteValue
  objectId : Option String
  exceptionDetails : Bool
deriving DecidableEq, Repr

/-- The main frame of `Page.getFrameTree`. -/
structure PageFrame where
  id : String
  loaderId : String
  url : String
deriving DecidableEq, Repr

/-- `EligibleComposerTarget`. -/
structure EligibleComposerTarget extends ReadinessEditableTarget where
  empty : Bool
deriving DecidableEq, Repr

/-- What `toEligibleComposer` and `observeBlockingNotice` make of the nodes, and the text boxes that
are not ignored, with their values. -/
structure AxTree where
  eligible : List EligibleComposerTarget
  notice : BlockingNotice
  textboxes : List (Rat × Option Text)
deriving DecidableEq, Repr

/-- A node of `DOM.describeNode`, with the ids of its descendants. -/
structure DescribedNode where
  nodeName : String
  nodeType : ℕ
  backendNodeId : Rat
  descendants : List Rat
deriving DecidableEq, Repr

/-- The `cssVisualViewport` of `Page.getLayoutMetrics`. -/
structure Viewport where
  clientWidth : Rat
  clientHeight : Rat
deriving DecidableEq, Repr

/-- The result of `DOM.getNodeForLocation`. -/
structure HitNode where
  frameId : String
  backendNodeId : Rat
deriving DecidableEq, Repr

/-- What the client returns for a command. -/
abbrev InterceptedCommand.Answer : InterceptedCommand → Type
  | .navigate _ => NavigateResult
  | .reload | .focus _ | .insertText _ | .dispatchKeyEvent _ | .dispatchMouseEvent _ => Unit
  | .evaluate _ | .callFunctionOn _ _ => RemoteResult

/-- What the client returns for a command. -/
abbrev ObservingCommand.Answer : ObservingCommand → Type
  | .enable | .releaseObject _ | .close => Unit
  | .getFrameTree => PageFrame
  | .getLayoutMetrics => Viewport
  | .getFullAXTree _ => AxTree
  | .describeNode _ _ => DescribedNode
  | .describeObject _ => Option Rat
  | .resolveNode _ => Option String
  | .getContentQuads _ => List (List Rat)
  | .getNodeForLocation _ => HitNode

/-- What an operation awaits. `settlementOrDelay` is a race; `callbackStep` is the time between two
steps of a callback; `never` is not answered. -/
inductive SessionRequest where
  | intercepted (command : InterceptedCommand)
  | observing (command : ObservingCommand)
  | beforeMutation
  | delay (ms : ℕ)
  | settlementOrDelay (ms : ℕ)
  | callbackStep
  | never
deriving DecidableEq, Repr

/-- The answers. -/
abbrev SessionRequest.Answer : SessionRequest → Type
  | .intercepted command => Except ThrownError command.Answer
  | .observing command => Except ThrownError command.Answer
  | .beforeMutation | .delay _ | .settlementOrDelay _ => Except ThrownError Unit
  | .callbackStep => Unit
  | .never => Empty

/-! ## The sessions -/

/-- What `getReadinessSnapshot` has observed of the document last. -/
structure ReadinessDocument where
  frameId : String
  loaderId : String
  expectedRoute : RouteExpectation
deriving DecidableEq, Repr

/-- `ChromeRemoteInterfaceSession`: the fields that its operations read. -/
structure SessionFields where
  closed : Bool := false
  readinessInitialized : Bool := false
  lastReadinessDocument : Option ReadinessDocument := none
deriving DecidableEq, Repr

/-- An event of the page that `navigateAndWaitForLoadSettlement` listens to. -/
inductive PageEvent where
  | loadEventFired
  | frameStoppedLoading (frameId : Option String)
deriving DecidableEq, Repr

/-- What the listeners of `navigateAndWaitForLoadSettlement` keep. -/
structure Settlement where
  navigationInitiated : Bool := false
  loadEventFired : Bool := false
  matchingFrameStopped : Bool := false
  targetFrameId : Option String := none
  stoppedFrameIds : List String := []
deriving DecidableEq, Repr

/-- The listeners of `navigateAndWaitForLoadSettlement`. -/
def Settlement.observe (settlement : Settlement) (event : PageEvent) : Settlement :=
  if !settlement.navigationInitiated then settlement
  else
    match event with
    | .loadEventFired => { settlement with loadEventFired := true }
    | .frameStoppedLoading none => settlement
    | .frameStoppedLoading (some frameId) =>
      match settlement.targetFrameId with
      | some targetFrameId =>
        if frameId = targetFrameId then { settlement with matchingFrameStopped := true }
        else settlement
      | none => { settlement with stoppedFrameIds := settlement.stoppedFrameIds ++ [frameId] }

/-- The local variables of an operation that its listeners and closures share. -/
structure OperationLocals where
  settlement : Option Settlement := none
  objectIds : List String := []
  consumed : Bool := false
deriving DecidableEq, Repr

/-- The operations. -/
inductive SessionMethodName where
  | navigate
  | reload
  | navigateAndWaitForLoadSettlement
  | focusBackendNode
  | dismissKnownFreshNotice
  | insertText
  | insertTextIntoProjectComposer
  | dispatchEnterKeyDown
  | dispatchEnterKeyUp
  | clickTurnSendButton
  | clickExistingTurnSendButton
  | createProjectThroughUi
deriving DecidableEq, Repr

/-- What the operations do, in order. `checked` and `refused` end the `beforeMutation` that was
called for a command; `sent` is the call of the client's own method. -/
inductive SessionLogEntry where
  | called (operation : ℕ) (method : SessionMethodName) (signal : Option OperationSignal)
  | aborted (signal : OperationSignal)
  | checked (operation : ℕ) (command : InterceptedCommand)
  | refused (operation : ℕ) (command : InterceptedCommand)
  | validated (operation : ℕ) (command : InterceptedCommand)
  | consumed (operation : ℕ)
  | sent (operation : ℕ) (command : InterceptedCommand)
  | returned (operation : ℕ)
  | rejected (operation : ℕ) (error : ThrownError)
deriving DecidableEq, Repr

/-- The operation of an entry. -/
def SessionLogEntry.operation? : SessionLogEntry → Option ℕ
  | .called operation _ _ | .checked operation _ | .refused operation _ | .validated operation _
  | .consumed operation | .sent operation _ | .returned operation | .rejected operation _ =>
    some operation
  | .aborted _ => none

/-- The open sessions, the signals that were aborted, and what the callbacks act on. -/
structure SessionWorld (κ : Type) where
  outer : κ
  fields : SessionId → SessionFields := fun _ => {}
  locals : ℕ → OperationLocals := fun _ => {}
  aborted : List (OperationSignal × Option ThrownError) := []
  log : List SessionLogEntry := []

/-- A piece of an operation. -/
abbrev SessionM (κ : Type) := Coroutine (SessionWorld κ) SessionRequest SessionRequest.Answer ThrownError

/-- A step of a callback: it returns or throws at once. -/
abbrev CallbackStep (κ : Type) := κ → Except ThrownError Unit × κ

/-- The settings of a session. The first two are functions of the URL of a frame; the last two say
whether the client has the methods that some operations look for. -/
structure ChromeSessionConfig where
  routeMatchesExpected : String → RouteExpectation → Bool
  createProjectLocator : String → Option ProjectLocator
  pageLifecycle : Bool
  composerIdentity : Bool

/-- The client of a session, for one operation. -/
structure SessionClient (κ : Type) where
  intercepted : ∀ command : InterceptedCommand, SessionM κ command.Answer

namespace ChromeRemoteInterfaceSession

open Coroutine

variable {κ α : Type}

/-- Append to the log. -/
def record (entry : SessionLogEntry) : SessionM κ Unit :=
  modify fun world => { world with log := world.log ++ [entry] }

/-- `throwIfAborted`. -/
def throwIfAborted (signal : Option OperationSignal) : SessionM κ Unit := do
  let world ← get
  match signal.bind fun signal => world.aborted.lookup signal with
  | some reason => throw (abortedError reason)
  | none => pure ()

/-- `delay`. -/
def delay (ms : ℕ) (signal : Option OperationSignal) : SessionM κ Unit := do
  throwIfAborted signal
  let outcome ← ask (.delay ms)
  settle outcome

/-- A command of the client that is not replaced. -/
def observe (command : ObservingCommand) : SessionM κ command.Answer := do
  let outcome ← ask (.observing command)
  settle outcome

/-- A command that is sent to the client. -/
def send (operation : ℕ) (command : InterceptedCommand) : SessionM κ command.Answer := do
  record (.sent operation command)
  let outcome ← ask (.intercepted command)
  settle outcome

/-- A `catch` that throws another error instead. -/
def replacing (message : String) (x : SessionM κ α) : SessionM κ α :=
  handle x fun _ => throw (ThrownError.plain message)

/-- A callback without steps in between. -/
def callback (step : CallbackStep κ) : SessionM κ Unit := do
  let world ← get
  set { world with outer := (step world.outer).2 }
  settle (step world.outer).1

/-- A callback whose steps others can come between. -/
def callbackSteps : List (CallbackStep κ) → SessionM κ Unit
  | [] => pure ()
  | [step] => callback step
  | step :: steps => do
    callback step
    let _ ← ask .callbackStep
    callbackSteps steps

/-- Change the local variables of an operation. -/
def setLocals (operation : ℕ) (f : OperationLocals → OperationLocals) : SessionM κ Unit :=
  modify fun world =>
    { world with locals := Function.update world.locals operation (f (world.locals operation)) }

/-- `CdpReadinessFailedError`. -/
def readinessFailed : ThrownError := .ofCode .cdpReadinessFailed

variable (config : ChromeSessionConfig) (session : SessionId) (operation : ℕ)
  (client : SessionClient κ)

/-- The check that the session is open. -/
def requireOpen : SessionM κ Unit := do
  let world ← get
  onlyIf (world.fields session).closed (throw (ThrownError.plain "CDP session is closed."))

/-! ## Navigation -/

/-- `navigate`. -/
def navigate (url : String) : SessionM κ Unit := do
  requireOpen session
  let result ← replacing "CDP Page.navigate command failed without retained protocol metadata."
    (client.intercepted (.navigate url))
  onlyIf (result.errorText.any fun errorText => errorText ≠ "")
    (throw (ThrownError.plain "CDP Page.navigate reported a navigation error."))

/-- `reload`. -/
def reload : SessionM κ Unit := do
  requireOpen session
  replacing "CDP Page.reload command failed without retained protocol metadata."
    (client.intercepted .reload)

/-- Whether the load event was fired and the frame has stopped. -/
def isSettled : SessionM κ Bool := do
  let world ← get
  pure ((world.locals operation).settlement.any fun settlement =>
    settlement.loadEventFired && settlement.matchingFrameStopped)

/-- The loop that waits for the settlement. -/
def awaitSettlement (signal : Option OperationSignal) : ℕ → SessionM κ Unit
  | 0 => do
    let stuck ← ask .never
    nomatch stuck
  | fuel + 1 => do
    let finished ← isSettled operation
    if finished then pure ()
    else do
      throwIfAborted signal
      let outcome ← ask (.settlementOrDelay 50)
      settle outcome
      awaitSettlement signal fuel

/-- The loop that waits for the route. -/
def awaitRoute (expectedRoute : RouteExpectation) (signal : Option OperationSignal) :
    ℕ → SessionM κ Unit
  | 0 => do
    let stuck ← ask .never
    nomatch stuck
  | fuel + 1 => do
    throwIfAborted signal
    let frame ← replacing "CDP Page.getFrameTree failed without retained protocol metadata."
      (observe .getFrameTree)
    if config.routeMatchesExpected frame.url expectedRoute then pure ()
    else do
      delay 50 signal
      awaitRoute expectedRoute signal fuel

/-- The part of `navigateAndWaitForLoadSettlement` that is in its `try`. -/
def navigateAndSettle (fuel : ℕ) (url : String) (expectedRoute : RouteExpectation)
    (signal : Option OperationSignal) : SessionM κ Unit := do
  replacing "CDP Page.enable failed without retained protocol metadata." (observe .enable)
  throwIfAborted signal
  setLocals operation fun locals =>
    { locals with settlement := locals.settlement.map fun settlement =>
        { settlement with navigationInitiated := true } }
  let result ← replacing "CDP Page.navigate command failed without retained protocol metadata."
    (client.intercepted (.navigate url))
  onlyIf (result.errorText.any fun errorText => errorText ≠ "")
    (throw (ThrownError.plain "CDP Page.navigate reported a navigation error."))
  match result.frameId with
  | some frameId =>
    setLocals operation fun locals =>
      { locals with settlement := locals.settlement.map fun settlement =>
          { settlement with
            targetFrameId := some frameId
            matchingFrameStopped :=
              settlement.matchingFrameStopped || settlement.stoppedFrameIds.contains frameId } }
  | none => pure ()
  awaitSettlement operation signal fuel
  awaitRoute config expectedRoute signal fuel

/-- `navigateAndWaitForLoadSettlement`. -/
def navigateAndWaitForLoadSettlement (fuel : ℕ) (url : String) (expectedRoute : RouteExpectation)
    (signal : Option OperationSignal) : SessionM κ Unit := do
  requireOpen session
  throwIfAborted signal
  onlyIf (!config.pageLifecycle)
    (throw (ThrownError.plain "CDP Page lifecycle observation is unavailable."))
  setLocals operation fun locals => { locals with settlement := some {} }
  let outcome ← attempt (navigateAndSettle config operation client fuel url expectedRoute signal)
  setLocals operation fun locals => { locals with settlement := none }
  settle outcome

/-! ## Focus -/

/-- The validation of `focusBackendNode`. -/
def validateFocus (document : Option ReadinessDocument) (backendDOMNodeId : Rat) :
    SessionM κ Unit := do
  let frame ← observe .getFrameTree
  let tree ← observe (.getFullAXTree frame.id)
  let current := document.any fun document =>
    frame.id == document.frameId && frame.loaderId == document.loaderId &&
      config.routeMatchesExpected frame.url document.expectedRoute
  onlyIf (!current || tree.notice != .ABSENT ||
      tree.eligible.map (fun target => target.backendDOMNodeId) != [backendDOMNodeId])
    (throw (ThrownError.ofCodeMessage .cdpReadinessFailed
      "Readiness candidate changed before input."))

/-- `dispatchComposerFocus`. -/
def dispatchComposerFocus (backendDOMNodeId : Rat) (validate : SessionM κ Unit)
    (signal : Option OperationSignal) : SessionM κ Unit := do
  throwIfAborted signal
  validate
  throwIfAborted signal
  client.intercepted (.focus backendDOMNodeId)

/-- `focusBackendNode`, with the `dispatchComposerFocus` of the class. -/
def focusBackendNode (dispatchComposerFocus : SessionM κ Unit → SessionM κ Unit)
    (backendDOMNodeId : Rat) : SessionM κ Unit := do
  requireOpen session
  let world ← get
  dispatchComposerFocus
    (validateFocus config (world.fields session).lastReadinessDocument backendDOMNodeId)

/-! ## The known notice -/

/-- `Math.round`. -/
def round (x : Rat) : Rat := (x + 1 / 2).floor

/-- `noticeClickPoint`. -/
def noticeClickPoint (quads : List (List Rat)) (viewport : Viewport) :
    Except ThrownError NoticePoint :=
  match quads with
  | [[x₀, y₀, x₁, y₁, x₂, y₂, x₃, y₃]] =>
    let xs := [x₀, x₁, x₂, x₃]
    let ys := [y₀, y₁, y₂, y₃]
    if xs.foldl max x₀ - xs.foldl min x₀ ≤ 1 ∨ ys.foldl max y₀ - ys.foldl min y₀ ≤ 1 ∨
        (xs.any fun x => x < 0 || viewport.clientWidth ≤ x) = true ∨
        (ys.any fun y => y < 0 || viewport.clientHeight ≤ y) = true then
      .error readinessFailed
    else
      let point : NoticePoint := ⟨round (xs.sum / 4), round (ys.sum / 4)⟩
      if point.x < 0 ∨ viewport.clientWidth ≤ point.x ∨ point.y < 0 ∨
          viewport.clientHeight ≤ point.y then
        .error readinessFailed
      else .ok point
  | _ => .error readinessFailed

/-- `NoticeMouseGuard`. -/
structure NoticeMouseGuard (κ : Type) where
  validate : SessionM κ Unit
  onPossibleInput : CallbackStep κ

/-- `dispatchNoticeMouse`. -/
def dispatchNoticeMouse (command : NoticeMouseCommand) (guard : NoticeMouseGuard κ)
    (signal : Option OperationSignal) : SessionM κ Unit := do
  throwIfAborted signal
  guard.validate
  throwIfAborted signal
  callback guard.onPossibleInput
  client.intercepted (.dispatchMouseEvent command)

/-- The notice that a dismissal is about. -/
structure SelectedNotice where
  frameId : String
  loaderId : String
  dialogId : Rat
  closeButtonId : Rat
deriving DecidableEq, Repr

/-- `sameDocument`. -/
def sameDocument (selected : SelectedNotice) (frame : PageFrame) : SessionM κ Unit :=
  onlyIf (frame.id != selected.frameId || frame.loaderId != selected.loaderId ||
    !config.routeMatchesExpected frame.url .freshRoot) (throw readinessFailed)

/-- `readCurrent`. -/
def readCurrent (selected : SelectedNotice) : SessionM κ Unit := do
  let frame ← observe .getFrameTree
  sameDocument config selected frame
  let tree ← observe (.getFullAXTree frame.id)
  onlyIf (tree.notice != .KNOWN_FRESH_NOTICE selected.dialogId selected.closeButtonId)
    (throw readinessFailed)

/-- The `validate` of the notice's guard. -/
def validateNotice (selected : SelectedNotice) (descendants : List Rat) (initialQuads : List (List Rat))
    (point : NoticePoint) (consume : List (CallbackStep κ)) : SessionM κ Unit := do
  readCurrent config selected
  let button ← observe (.describeNode selected.closeButtonId 0)
  onlyIf (button.nodeName != "BUTTON" || button.backendNodeId != selected.closeButtonId)
    (throw readinessFailed)
  let quads ← observe (.getContentQuads selected.closeButtonId)
  let viewport ← observe .getLayoutMetrics
  let currentPoint ← settle (noticeClickPoint quads viewport)
  onlyIf (quads != initialQuads || currentPoint != point) (throw readinessFailed)
  let world ← get
  if (world.locals operation).consumed then pure ()
  else do
    callbackSteps consume
    setLocals operation fun locals => { locals with consumed := true }
    record (.consumed operation)
  let hit ← observe (.getNodeForLocation point)
  onlyIf (hit.frameId != selected.frameId || !descendants.contains hit.backendNodeId)
    (throw readinessFailed)

/-- The loop that waits until the notice is gone. -/
def awaitDismissed (selected : SelectedNotice) (signal : Option OperationSignal) : ℕ → SessionM κ Unit
  | 0 => do
    let stuck ← ask .never
    nomatch stuck
  | fuel + 1 => do
    throwIfAborted signal
    let frame ← observe .getFrameTree
    sameDocument config selected frame
    let tree ← observe (.getFullAXTree frame.id)
    match tree.notice with
    | .UNKNOWN => throw readinessFailed
    | .ABSENT => onlyIf (tree.eligible.length != 1) (throw readinessFailed)
    | .KNOWN_FRESH_NOTICE dialogId closeButtonId =>
      onlyIf (dialogId != selected.dialogId || closeButtonId != selected.closeButtonId)
        (throw readinessFailed)
      delay 100 signal
      awaitDismissed selected signal fuel

/-- `dismissKnownFreshNotice`, with the `dispatchNoticeMouse` of the class. -/
def dismissKnownFreshNotice
    (dispatchNoticeMouse : NoticeMouseCommand → NoticeMouseGuard κ → SessionM κ Unit) (fuel : ℕ)
    (snapshot : ExistingReadinessSnapshot) (consume : List (CallbackStep κ))
    (onPossibleInput : CallbackStep κ) (signal : Option OperationSignal) : SessionM κ Unit := do
  let world ← get
  match snapshot.blockingNotice with
  | some (.KNOWN_FRESH_NOTICE dialogId closeButtonId) =>
    let selected : SelectedNotice :=
      ⟨snapshot.mainFrame.frameId, snapshot.mainFrame.loaderId, dialogId, closeButtonId⟩
    onlyIf ((world.fields session).closed || signal.isNone || !snapshot.mainFrame.expectedRoute)
      (throw readinessFailed)
    readCurrent config selected
    let button ← observe (.describeNode closeButtonId 3)
    onlyIf (button.nodeName != "BUTTON" || button.backendNodeId != closeButtonId ||
      button.nodeType != 1) (throw readinessFailed)
    let initialQuads ← observe (.getContentQuads closeButtonId)
    let initialViewport ← observe .getLayoutMetrics
    let point ← settle (noticeClickPoint initialQuads initialViewport)
    let validate := validateNotice config operation selected
      (button.backendNodeId :: button.descendants) initialQuads point consume
    dispatchNoticeMouse ⟨point, .mousePressed⟩ ⟨validate, onPossibleInput⟩
    dispatchNoticeMouse ⟨point, .mouseReleased⟩ ⟨validate, onPossibleInput⟩
    awaitDismissed config selected signal fuel
  | _ => throw readinessFailed

/-! ## Text and keys -/

/-- `insertText`. -/
def insertText (text : Text) : SessionM κ Unit := do
  requireOpen session
  replacing "CDP insertText command failed without retained protocol metadata."
    (client.intercepted (.insertText text))

/-- `dispatchEnter`. -/
def dispatchEnter (type : EnterEventType) : SessionM κ Unit := do
  requireOpen session
  replacing "CDP Enter command failed without retained protocol metadata."
    (client.intercepted (.dispatchKeyEvent type))

/-! ## The composer -/

/-- `projectComposerAxValueForText`. -/
def projectComposerAxValueForText (text : Text) : Text :=
  text.flatMap fun c => if c = 0x0A then [c, c] else [c]

/-- `projectComposerAxTextMatches`. -/
def projectComposerAxTextMatches (backendDOMNodeId : Rat) (text : Text)
    (signal : Option OperationSignal) : SessionM κ Bool := do
  throwIfAborted signal
  let frame ← observe .getFrameTree
  throwIfAborted signal
  let tree ← observe (.getFullAXTree frame.id)
  throwIfAborted signal
  match tree.textboxes.filter fun textbox => textbox.1 == backendDOMNodeId with
  | [(_, some value)] => pure (value == projectComposerAxValueForText text)
  | _ => pure false

/-- `projectComposerDomains`. -/
def projectComposerDomains (backendDOMNodeId : Rat) (signal : Option OperationSignal) :
    SessionM κ Unit := do
  throwIfAborted signal
  let world ← get
  onlyIf ((world.fields session).closed || !(world.fields session).readinessInitialized)
    (throw (ThrownError.plain "CDP Project composer operation is unavailable."))
  onlyIf (!isSafeInteger backendDOMNodeId || backendDOMNodeId ≤ 0)
    (throw { head := ⟨.typeError, "Project turn composer identity is invalid."⟩ })
  onlyIf (!config.composerIdentity)
    (throw (ThrownError.plain "CDP Project composer identity observation is unavailable."))

/-- `objectIds.push`. -/
def pushObjectId (objectId : String) : SessionM κ Unit :=
  setLocals operation fun locals =>
    { locals with objectIds := locals.objectIds ++ [objectId] }

/-- The object of a node, kept for its release. -/
def resolveObject (message : String) (backendNodeId : Rat) : SessionM κ String := do
  let objectId ← observe (.resolveNode backendNodeId)
  match objectId with
  | none => throw (ThrownError.plain message)
  | some objectId =>
    onlyIf (objectId == "") (throw (ThrownError.plain message))
    pushObjectId operation objectId
    pure objectId

/-- `close`. -/
def close : SessionM κ Unit := do
  let world ← get
  if (world.fields session).closed then pure ()
  else do
    let fields := { world.fields session with closed := true, readinessInitialized := false }
    set { world with fields := Function.update world.fields session fields }
    observe .close

/-- The releases of `releaseProjectComposerObjects`; whether one has failed. -/
def releaseObjects : List String → SessionM κ Bool
  | [] => pure false
  | objectId :: objectIds => do
    let released ← attempt (observe (.releaseObject objectId))
    let failed ← releaseObjects objectIds
    match released with
    | .ok _ => pure failed
    | .error _ => pure true

/-- `releaseProjectComposerObjects`. -/
def releaseProjectComposerObjects : SessionM κ Unit := do
  let world ← get
  let cleanupFailed ← releaseObjects (world.locals operation).objectIds.reverse
  if cleanupFailed then do
    let _ ← attempt (close session)
    throw (ThrownError.plain
      "CDP Project composer cleanup failed without retained protocol metadata.")
  else pure ()

/-- An operation on the composer: its objects are released however it ends. -/
def withComposerObjects (failure : String) (body : SessionM κ α) : SessionM κ α := do
  let outcome ← attempt body
  releaseProjectComposerObjects session operation
  match outcome with
  | .ok a => pure a
  | .error _ => throw (ThrownError.plain failure)

/-- The part of `insertProjectComposerText` that is in its `try`. -/
def insertIntoComposer (projectLocator : ProjectLocator) (backendDOMNodeId : Rat) (text : Text)
    (signal : Option OperationSignal) : SessionM κ (Option Rat) := do
  let composer ← resolveObject operation "Project composer identity could not be resolved."
    backendDOMNodeId
  throwIfAborted signal
  let result ← client.intercepted (.callFunctionOn composer (.projectForm projectLocator text))
  match result.objectId with
  | none => do
    throwIfAborted signal
    pure none
  | some form => do
    pushObjectId operation form
    throwIfAborted signal
    if result.exceptionDetails then pure none
    else do
      let described ← observe (.describeObject form)
      throwIfAborted signal
      match described.filter fun candidate => isSafeInteger candidate && 0 < candidate with
      | none => pure none
      | some candidate => do
        let revalidated ← client.intercepted
          (.callFunctionOn composer (.projectRevalidation projectLocator form))
        throwIfAborted signal
        if revalidated.exceptionDetails || revalidated.value != .boolean true then pure none
        else do
          replacing "CDP Project composer input failed without retained protocol metadata."
            (client.intercepted (.insertText text))
          throwIfAborted signal
          let verified ← client.intercepted
            (.callFunctionOn composer (.projectVerification projectLocator form text))
          throwIfAborted signal
          if verified.exceptionDetails then pure none
          else if verified.value == .text "TEXT_CONTROL_EXACT" then pure (some candidate)
          else if verified.value == .text "AX_REQUIRED" then do
            let textVerified ← projectComposerAxTextMatches backendDOMNodeId text signal
            pure (if textVerified then some candidate else none)
          else pure none

/-- `insertTextIntoProjectComposer`. -/
def insertTextIntoProjectComposer (text : Text) (projectLocator : ProjectLocator)
    (backendDOMNodeId : Rat) (signal : Option OperationSignal) : SessionM κ Rat := do
  projectComposerDomains config session backendDOMNodeId signal
  let form ← withComposerObjects session operation
    "CDP Project composer operation failed without retained protocol metadata."
    (insertIntoComposer operation client projectLocator backendDOMNodeId text signal)
  match form with
  | some formBackendDOMNodeId => pure formBackendDOMNodeId
  | none => throw (ThrownError.plain "The expected Project composer was unavailable for input.")

/-- The click of the send control. -/
def clickSend (malformed composer : String) (click : ComposerFunction)
    (signal : Option OperationSignal) : SessionM κ Bool := do
  throwIfAborted signal
  let clicked ← client.intercepted (.callFunctionOn composer click)
  throwIfAborted signal
  match clicked.exceptionDetails, clicked.value with
  | false, .boolean value => pure value
  | _, _ => throw (ThrownError.plain malformed)

/-- The end of both send operations: the composer's text is validated, and the control is clicked. -/
def validateAndClick (malformed composer : String) (validation : ComposerFunction)
    (click : String → Option String → ComposerFunction) (backendDOMNodeId : Rat) (text : Text)
    (signal : Option OperationSignal) : SessionM κ Bool := do
  throwIfAborted signal
  let result ← client.intercepted (.callFunctionOn composer validation)
  throwIfAborted signal
  onlyIf result.exceptionDetails (throw (ThrownError.plain malformed))
  match result.value with
  | .absent | .null => pure false
  | .boolean _ | .text _ | .other => throw (ThrownError.plain malformed)
  | .validation kind html => do
    let expectedHtml := if kind = "AX_REQUIRED" then html else none
    onlyIf (kind != "TEXT_CONTROL_EXACT" && (kind != "AX_REQUIRED" || html.isNone))
      (throw (ThrownError.plain malformed))
    let textVerified ←
      if kind = "AX_REQUIRED" then projectComposerAxTextMatches backendDOMNodeId text signal
      else pure true
    if textVerified then clickSend client malformed composer (click kind expectedHtml) signal
    else pure false

/-- The part of `clickProjectComposerSend` that is in its `try`. -/
def clickProjectSend (projectLocator : ProjectLocator) (backendDOMNodeId formBackendDOMNodeId : Rat)
    (text : Text) (signal : Option OperationSignal) : SessionM κ Bool := do
  let composer ← resolveObject operation "Project composer identity could not be resolved."
    backendDOMNodeId
  throwIfAborted signal
  let form ← resolveObject operation "Project composer identity could not be resolved."
    formBackendDOMNodeId
  validateAndClick client "Project composer identity observation was malformed." composer
    (.projectValidation projectLocator form text) (.projectClick projectLocator form text)
    backendDOMNodeId text signal

/-- `clickTurnSendButton`. -/
def clickTurnSendButton (projectLocator : ProjectLocator)
    (backendDOMNodeId formBackendDOMNodeId : Rat) (expectedText : Text)
    (signal : Option OperationSignal) : SessionM κ Unit := do
  projectComposerDomains config session backendDOMNodeId signal
  onlyIf (!isSafeInteger formBackendDOMNodeId || formBackendDOMNodeId ≤ 0)
    (throw { head := ⟨.typeError, "Project turn form identity is invalid."⟩ })
  let clicked ← withComposerObjects session operation
    "CDP Project composer operation failed without retained protocol metadata."
    (clickProjectSend operation client projectLocator backendDOMNodeId formBackendDOMNodeId
      expectedText signal)
  onlyIf (!clicked)
    (throw (ThrownError.plain "The unique enabled turn send control was unavailable."))

/-- The part of `clickExistingComposerSend` that is in its `try`. -/
def clickExistingSend (conversationLocator : ConversationLocator) (backendDOMNodeId : Rat)
    (text : Text) (signal : Option OperationSignal) : SessionM κ Bool := do
  let composer ← resolveObject operation "Existing-thread composer identity could not be resolved."
    backendDOMNodeId
  throwIfAborted signal
  let result ← client.intercepted (.callFunctionOn composer (.existingForm conversationLocator text))
  match result.exceptionDetails, result.objectId.filter (fun form => form ≠ "") with
  | false, some form => do
    pushObjectId operation form
    validateAndClick client "Existing-thread composer validation was malformed." composer
      (.existingValidation conversationLocator form text)
      (.existingClick conversationLocator form text) backendDOMNodeId text signal
  | _, _ => throw (ThrownError.plain "Existing-thread composer form could not be resolved.")

/-- `clickExistingTurnSendButton`. -/
def clickExistingTurnSendButton (conversationLocator : ConversationLocator)
    (backendDOMNodeId : Rat) (expectedText : Text) (signal : Option OperationSignal) :
    SessionM κ Unit := do
  projectComposerDomains config session backendDOMNodeId signal
  let clicked ← withComposerObjects session operation
    "CDP existing-thread composer operation failed without retained protocol metadata."
    (clickExistingSend operation client conversationLocator backendDOMNodeId expectedText signal)
  onlyIf (!clicked)
    (throw (ThrownError.plain
      "The unique enabled existing-thread send control was unavailable."))

/-! ## Projects -/

/-- `evaluateProjectBoolean`. -/
def evaluateProjectBoolean (expression : ProjectScript) : SessionM κ Bool := do
  let result ← replacing "CDP project UI observation failed without retained protocol metadata."
    (client.intercepted (.evaluate expression))
  match result.exceptionDetails, result.value with
  | false, .boolean value => pure value
  | _, _ => throw (ThrownError.plain "CDP project UI observation was malformed.")

/-- The loops of `createProjectThroughUi` that evaluate a script until it answers `true`. -/
def evaluateUntil (expression : ProjectScript) (signal : Option OperationSignal) :
    ℕ → SessionM κ Bool
  | 0 => pure false
  | attempts + 1 => do
    throwIfAborted signal
    let done ← evaluateProjectBoolean client expression
    if done then pure true
    else do
      delay 100 signal
      evaluateUntil expression signal attempts

/-- The loop of `createProjectThroughUi` that waits for the new project. -/
def awaitProject (name : Text) (initialLocator : Option ProjectLocator)
    (signal : Option OperationSignal) : ℕ → SessionM κ ProjectLocator
  | 0 => throw (ThrownError.plain "Project creation postcondition was not observed.")
  | attempts + 1 => do
    throwIfAborted signal
    let frame ← observe .getFrameTree
    let locator := config.createProjectLocator frame.url
    match locator with
    | none => do
      delay 100 signal
      awaitProject name initialLocator signal attempts
    | some found =>
      if locator = initialLocator then do
        delay 100 signal
        awaitProject name initialLocator signal attempts
      else do
        let nameVisible ← evaluateProjectBoolean client (.nameVisible name)
        if nameVisible then pure found
        else do
          delay 100 signal
          awaitProject name initialLocator signal attempts

/-- `createProjectThroughUi`. -/
def createProjectThroughUi (name : Text) (signal : Option OperationSignal)
    (onMutationAttempted : CallbackStep κ) : SessionM κ ProjectLocator := do
  let world ← get
  onlyIf ((world.fields session).closed || !(world.fields session).readinessInitialized)
    (throw (ThrownError.plain "CDP project UI operation is unavailable."))
  throwIfAborted signal
  let initialFrame ← observe .getFrameTree
  let initialLocator := config.createProjectLocator initialFrame.url
  let opened ← evaluateProjectBoolean client .openControl
  onlyIf (!opened) (throw (ThrownError.plain "Project creation control was unavailable."))
  let inputFocused ← evaluateUntil client .focusNameInput signal 50
  onlyIf (!inputFocused) (throw (ThrownError.plain "Project name input was unavailable."))
  throwIfAborted signal
  replacing "Project name input failed without retained protocol metadata."
    (client.intercepted (.insertText name))
  callback onMutationAttempted
  let confirmed ← evaluateUntil client (.confirm name) signal 50
  onlyIf (!confirmed)
    (throw (ThrownError.plain "Project creation confirmation was unavailable."))
  awaitProject config client name initialLocator signal 200

/-! ## Parts that only look at the session -/

section Inert

variable {config : ChromeSessionConfig} {session : SessionId} {operation : ℕ}
  {signal : Option OperationSignal}

theorem throwIfAborted_inert : Inert (throwIfAborted signal : SessionM κ Unit) := by
  refine inert_get.bind fun world => ?_
  cases signal.bind fun signal => world.aborted.lookup signal with
  | some reason => exact inert_throw _
  | none => exact inert_pure ()

theorem delay_inert (ms : ℕ) : Inert (delay ms signal : SessionM κ Unit) :=
  throwIfAborted_inert.bind fun _ => (inert_ask _).bind fun outcome => inert_settle outcome

theorem observe_inert (command : ObservingCommand) :
    Inert (observe command : SessionM κ command.Answer) :=
  (inert_ask _).bind fun outcome => inert_settle outcome

theorem replacing_inert (message : String) {x : SessionM κ α} (hx : Inert x) :
    Inert (replacing message x) :=
  hx.handle fun _ => inert_throw _

theorem requireOpen_inert : Inert (requireOpen session : SessionM κ Unit) :=
  inert_get.bind fun _ => (inert_throw _).onlyIf

theorem stuck_inert :
    Inert (ask SessionRequest.never >>= fun stuck => nomatch stuck : SessionM κ α) :=
  (inert_ask SessionRequest.never).bind fun stuck => nomatch stuck

theorem awaitSettlement_inert (fuel : ℕ) :
    Inert (awaitSettlement operation signal fuel : SessionM κ Unit) := by
  induction fuel with
  | zero => exact stuck_inert
  | succ fuel ih =>
    refine Inert.bind (inert_get.bind fun _ => inert_pure _) fun finished => (inert_pure ()).ite ?_
    refine throwIfAborted_inert.bind fun _ => (inert_ask _).bind fun outcome => ?_
    exact (inert_settle _).bind fun _ => ih

theorem awaitRoute_inert (expectedRoute : RouteExpectation) (fuel : ℕ) :
    Inert (awaitRoute config expectedRoute signal fuel : SessionM κ Unit) := by
  induction fuel with
  | zero => exact stuck_inert
  | succ fuel ih =>
    refine throwIfAborted_inert.bind fun _ => ?_
    refine (replacing_inert _ (observe_inert .getFrameTree)).bind fun frame => ?_
    exact (inert_pure ()).ite ((delay_inert 50).bind fun _ => ih)

theorem validateFocus_inert (document : Option ReadinessDocument) (backendDOMNodeId : Rat) :
    Inert (validateFocus config document backendDOMNodeId : SessionM κ Unit) := by
  refine (observe_inert .getFrameTree).bind fun frame => ?_
  exact (observe_inert (.getFullAXTree _)).bind fun tree => (inert_throw _).onlyIf

theorem sameDocument_inert (selected : SelectedNotice) (frame : PageFrame) :
    Inert (sameDocument config selected frame : SessionM κ Unit) :=
  (inert_throw _).onlyIf

theorem readCurrent_inert (selected : SelectedNotice) :
    Inert (readCurrent config selected : SessionM κ Unit) := by
  refine (observe_inert .getFrameTree).bind fun frame => ?_
  refine (sameDocument_inert selected frame).bind fun _ => ?_
  exact (observe_inert (.getFullAXTree _)).bind fun tree => (inert_throw _).onlyIf

theorem awaitDismissed_inert (selected : SelectedNotice) (fuel : ℕ) :
    Inert (awaitDismissed config selected signal fuel : SessionM κ Unit) := by
  induction fuel with
  | zero => exact stuck_inert
  | succ fuel ih =>
    refine throwIfAborted_inert.bind fun _ => (observe_inert .getFrameTree).bind fun frame => ?_
    refine (sameDocument_inert selected frame).bind fun _ => ?_
    refine (observe_inert (.getFullAXTree _)).bind fun tree => ?_
    cases tree.notice with
    | UNKNOWN => exact inert_throw _
    | ABSENT => exact (inert_throw _).onlyIf
    | KNOWN_FRESH_NOTICE dialogId closeButtonId =>
      exact (inert_throw _).onlyIf.bind fun _ => (delay_inert 100).bind fun _ => ih

end Inert

/-! ## Rules in company -/

section Rules

variable {signal : Option OperationSignal} {world : SessionWorld κ}

/-- The signals that the log says are aborted are. -/
def Coherent (world : SessionWorld κ) : Prop :=
  ∀ signal, .aborted signal ∈ world.log → (world.aborted.lookup signal).isSome = true

/-- The signal is not aborted. -/
def NotAborted (signal : Option OperationSignal) (world : SessionWorld κ) : Prop :=
  ∀ aborted ∈ signal, world.aborted.lookup aborted = none

theorem NotAborted.log (h : NotAborted signal world) (hcoherent : Coherent world) :
    ∀ aborted ∈ signal, .aborted aborted ∉ world.log := by
  intro aborted hsignal hmem
  have hsome := hcoherent aborted hmem
  rw [h aborted hsignal] at hsome
  exact nomatch hsome

theorem wp_throwIfAborted {R G : SessionWorld κ → SessionWorld κ → Prop} [Std.Refl G] :
    wp R G (fun _ world' => world' = world ∧ NotAborted signal world)
      (fun _ world' => world' = world) (throwIfAborted signal) world := by
  rw [throwIfAborted, wp_bind, wp_get]
  refine ⟨refl world, ?_⟩
  split
  · exact rfl
  · rename_i hnone
    refine ⟨rfl, fun aborted hsignal => ?_⟩
    rw [Option.mem_def.mp hsignal] at hnone
    exact hnone

theorem wp_record {R G : SessionWorld κ → SessionWorld κ → Prop} {Q : α → SessionWorld κ → Prop}
    {E : ThrownError → SessionWorld κ → Prop} {entry : SessionLogEntry} {f : Unit → SessionM κ α}
    (hguarantee : G world { world with log := world.log ++ [entry] })
    (hf : wp R G Q E (f ()) { world with log := world.log ++ [entry] }) :
    wp R G Q E (record entry >>= f) world := by
  rw [wp_bind]
  exact ⟨hguarantee, hf⟩

/-- What follows an entry moves by the guarantee. -/
theorem advance_record {R G : SessionWorld κ → SessionWorld κ → Prop} [Std.Refl G]
    [IsTrans (SessionWorld κ) G] {Q : α → SessionWorld κ → Prop}
    {E : ThrownError → SessionWorld κ → Prop} {entry : SessionLogEntry} {f : Unit → SessionM κ α}
    (h : wp R G Q E (record entry >>= f) world) :
    G { world with log := world.log ++ [entry] } ((record entry >>= f).advance world).2 := by
  have hrest : wp R G Q E (f ()) { world with log := world.log ++ [entry] } :=
    ((wp_bind _ _).mp h).2
  exact (advance_spec hrest).1

theorem wp_setLocals {R G : SessionWorld κ → SessionWorld κ → Prop}
    {Q : α → SessionWorld κ → Prop} {E : ThrownError → SessionWorld κ → Prop} {operation : ℕ}
    {change : OperationLocals → OperationLocals} {f : Unit → SessionM κ α}
    (hguarantee : G world { world with
      locals := Function.update world.locals operation (change (world.locals operation)) })
    (hf : wp R G Q E (f ()) { world with
      locals := Function.update world.locals operation (change (world.locals operation)) }) :
    wp R G Q E (setLocals operation change >>= f) world := by
  rw [wp_bind]
  exact ⟨hguarantee, hf⟩

end Rules

end ChromeRemoteInterfaceSession

end Threadwire
