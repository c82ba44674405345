import Threadwire.Cdp.ChromeRemoteInterfaceSession

/-!
# The session that checks before each mutation

`cdp/MutationGuardedChromeRemoteInterfaceSession.ts`: the client of the session is a proxy that calls
`beforeMutation` before a mutating command. Which commands it does this for is said by the mutation
scope of the asynchronous context that the command is sent from, so each operation runs in the scope
that its method has opened, however the operations overlap.
-/

namespace Threadwire

/-- `MutationScope`. -/
structure MutationScope (κ : Type) where
  signal : Option OperationSignal := none
  pageNavigate : Bool := false
  pageReload : Bool := false
  domFocus : Bool := false
  focusSemanticGuard : Option (SessionM κ Unit) := none
  inputDispatchMouseEvent : Bool := false
  noticeMouseGuard : Option (ChromeRemoteInterfaceSession.NoticeMouseGuard κ) := none
  inputInsertText : Bool := false
  inputDispatchKeyEvent : Bool := false
  runtimeEvaluate : Bool := false
  runtimeCallFunctionOn : Bool := false

/-- The calls of the session, with their arguments. -/
inductive SessionMethod (κ : Type) where
  | navigate (url : String)
  | reload
  | navigateAndWaitForLoadSettlement (url : String) (expectedRoute : RouteExpectation)
  | focusBackendNode (backendDOMNodeId : Rat)
  | dismissKnownFreshNotice (snapshot : ExistingReadinessSnapshot)
      (consume : List (CallbackStep κ)) (onPossibleInput : CallbackStep κ)
  | insertText (text : Text)
  | insertTextIntoProjectComposer (text : Text) (projectLocator : ProjectLocator)
      (backendDOMNodeId : Rat)
  | dispatchEnterKeyDown
  | dispatchEnterKeyUp
  | clickTurnSendButton (projectLocator : ProjectLocator)
      (backendDOMNodeId formBackendDOMNodeId : Rat) (expectedText : Text)
  | clickExistingTurnSendButton (conversationLocator : ConversationLocator)
      (backendDOMNodeId : Rat) (expectedText : Text)
  | createProjectThroughUi (name : Text) (onMutationAttempted : CallbackStep κ)

/-- The method without its arguments. -/
def SessionMethod.name {κ : Type} : SessionMethod κ → SessionMethodName
  | .navigate _ => .navigate
  | .reload => .reload
  | .navigateAndWaitForLoadSettlement _ _ => .navigateAndWaitForLoadSettlement
  | .focusBackendNode _ => .focusBackendNode
  | .dismissKnownFreshNotice _ _ _ => .dismissKnownFreshNotice
  | .insertText _ => .insertText
  | .insertTextIntoProjectComposer _ _ _ => .insertTextIntoProjectComposer
  | .dispatchEnterKeyDown => .dispatchEnterKeyDown
  | .dispatchEnterKeyUp => .dispatchEnterKeyUp
  | .clickTurnSendButton _ _ _ _ => .clickTurnSendButton
  | .clickExistingTurnSendButton _ _ _ => .clickExistingTurnSendButton
  | .createProjectThroughUi _ _ => .createProjectThroughUi

namespace MutationGuardedChromeRemoteInterfaceSession

open Coroutine ChromeRemoteInterfaceSession

variable {κ : Type}

/-- `shouldGuard`, in a scope. -/
def shouldGuard (scope : MutationScope κ) : InterceptedCommand → Bool
  | .navigate _ => scope.pageNavigate
  | .reload => scope.pageReload
  | .focus _ => scope.domFocus
  | .insertText _ => scope.inputInsertText
  | .dispatchMouseEvent _ => scope.inputDispatchMouseEvent
  | .dispatchKeyEvent _ => scope.inputDispatchKeyEvent
  | .evaluate _ => scope.runtimeEvaluate
  | .callFunctionOn _ _ => scope.runtimeCallFunctionOn

variable (config : ChromeSessionConfig) (session : SessionId) (operation : ℕ)

/-- The entry for an answer of `beforeMutation`. -/
def checkEntry (command : InterceptedCommand) : Except ThrownError Unit → SessionLogEntry
  | .ok _ => .checked operation command
  | .error _ => .refused operation command

/-- `beforeMutation`, with the entry for its answer. -/
def beforeMutation (command : InterceptedCommand) : SessionM κ Unit := do
  let outcome ← ask .beforeMutation
  record (checkEntry operation command outcome)
  settle outcome

/-- A validation, with an entry where it succeeds. -/
def performValidation (command : InterceptedCommand) (validate : SessionM κ Unit) :
    SessionM κ Unit := do
  validate
  record (.validated operation command)

/-- A validation, and the check of the signal that follows it. -/
def awaitValidation (scope : MutationScope κ) (command : InterceptedCommand)
    (validate : SessionM κ Unit) : SessionM κ Unit := do
  performValidation operation command validate
  throwIfAborted scope.signal

/-- The semantic guards of a scope. -/
def semanticGuard (scope : MutationScope κ) (command : InterceptedCommand) : SessionM κ Unit := do
  match command with
  | .focus _ =>
    match scope.focusSemanticGuard with
    | none => pure ()
    | some focusSemanticGuard => awaitValidation operation scope command focusSemanticGuard
  | .dispatchMouseEvent _ =>
    match scope.noticeMouseGuard with
    | none => throw (ThrownError.plain "Known-notice mouse guard is unavailable.")
    | some noticeMouseGuard => do
      awaitValidation operation scope command noticeMouseGuard.validate
      callback noticeMouseGuard.onPossibleInput
  | _ => pure ()

/-- A command that is checked first. -/
def guardedSend (scope : MutationScope κ) (command : InterceptedCommand) :
    SessionM κ command.Answer := do
  throwIfAborted scope.signal
  beforeMutation operation command
  throwIfAborted scope.signal
  semanticGuard operation scope command
  send operation command

/-- `mutationAwareClient`, for an operation that runs in this scope. -/
def mutationAwareClient (store : Option (MutationScope κ)) : SessionClient κ where
  intercepted command :=
    match store with
    | none => send operation command
    | some scope =>
      if shouldGuard scope command then guardedSend operation scope command
      else send operation command

/-- `dispatchComposerFocus` of the class. -/
def guardedComposerFocus (signal : Option OperationSignal) (backendDOMNodeId : Rat)
    (validate : SessionM κ Unit) : SessionM κ Unit :=
  (mutationAwareClient operation (some { signal
                                         domFocus := true
                                         focusSemanticGuard := some validate })).intercepted
    (.focus backendDOMNodeId)

/-- `dispatchNoticeMouse` of the class. -/
def guardedNoticeMouse (signal : Option OperationSignal) (command : NoticeMouseCommand)
    (guard : NoticeMouseGuard κ) : SessionM κ Unit :=
  (mutationAwareClient operation (some { signal
                                         inputDispatchMouseEvent := true
                                         noticeMouseGuard := some guard })).intercepted
    (.dispatchMouseEvent command)

/-- The methods of the class, each in its mutation scope. -/
def perform (fuel : ℕ) (signal : Option OperationSignal) : SessionMethod κ → SessionM κ Unit
  | .navigate url =>
    navigate session (mutationAwareClient operation (some { signal, pageNavigate := true })) url
  | .reload =>
    reload session (mutationAwareClient operation (some { signal, pageReload := true }))
  | .navigateAndWaitForLoadSettlement url expectedRoute =>
    navigateAndWaitForLoadSettlement config session operation
      (mutationAwareClient operation (some { signal, pageNavigate := true })) fuel url expectedRoute
      signal
  | .focusBackendNode backendDOMNodeId =>
    focusBackendNode config session (guardedComposerFocus operation signal backendDOMNodeId)
      backendDOMNodeId
  | .dismissKnownFreshNotice snapshot consume onPossibleInput =>
    dismissKnownFreshNotice config session operation (guardedNoticeMouse operation signal) fuel
      snapshot consume onPossibleInput signal
  | .insertText text =>
    insertText session (mutationAwareClient operation (some { signal, inputInsertText := true })) text
  | .insertTextIntoProjectComposer text projectLocator backendDOMNodeId => do
    let _ ← insertTextIntoProjectComposer config session operation
      (mutationAwareClient operation (some { signal, inputInsertText := true })) text projectLocator
      backendDOMNodeId signal
    pure ()
  | .dispatchEnterKeyDown =>
    dispatchEnter session
      (mutationAwareClient operation (some { signal, inputDispatchKeyEvent := true })) .keyDown
  | .dispatchEnterKeyUp =>
    dispatchEnter session
      (mutationAwareClient operation (some { signal, inputDispatchKeyEvent := true })) .keyUp
  | .clickTurnSendButton projectLocator backendDOMNodeId formBackendDOMNodeId expectedText =>
    clickTurnSendButton config session operation
      (mutationAwareClient operation (some { signal, runtimeCallFunctionOn := true }))
      projectLocator backendDOMNodeId formBackendDOMNodeId expectedText signal
  | .clickExistingTurnSendButton conversationLocator backendDOMNodeId expectedText =>
    clickExistingTurnSendButton config session operation
      (mutationAwareClient operation (some { signal, runtimeCallFunctionOn := true }))
      conversationLocator backendDOMNodeId expectedText signal
  | .createProjectThroughUi name onMutationAttempted => do
    let _ ← createProjectThroughUi config session
      (mutationAwareClient operation (some { signal
                                             runtimeEvaluate := true
                                             inputInsertText := true }))
      name signal onMutationAttempted
    pure ()

/-- A call of one of the methods; the log says how it ended. -/
def call (fuel : ℕ) (method : SessionMethod κ) (signal : Option OperationSignal) :
    SessionM κ Unit := do
  record (.called operation method.name signal)
  let outcome ← attempt (perform config session operation fuel signal method)
  match outcome with
  | .ok _ => record (.returned operation)
  | .error error => record (.rejected operation error)

/-! ## Operations side by side -/

/-- The sessions with their operations. -/
abbrev SessionPool (κ : Type) :=
  Pool (SessionWorld κ) SessionRequest SessionRequest.Answer ThrownError Unit

/-- What can happen: a call of a method, an answer to what an operation awaits, an abort, an event of
the page, a change of a session by its other methods and by its client, and a change of the state
that the callbacks act on. -/
inductive GuardedSessionInput (κ : Type) where
  | call (session : SessionId) (fuel : ℕ) (method : SessionMethod κ)
      (signal : Option OperationSignal)
  | answer (operation : ℕ) (answers : ∀ request : SessionRequest, Option request.Answer)
  | abort (signal : OperationSignal) (reason : Option ThrownError)
  | pageEvent (operation : ℕ) (event : PageEvent)
  | initialized (session : SessionId)
  | observed (session : SessionId) (document : ReadinessDocument)
  | disconnected (session : SessionId)
  | outerMove (f : κ → κ)

/-- A signal is aborted, unless it already is. -/
def abort (signal : OperationSignal) (reason : Option ThrownError) (world : SessionWorld κ) :
    SessionWorld κ :=
  if (world.aborted.lookup signal).isSome then world
  else
    { world with
      aborted := world.aborted ++ [(signal, reason)]
      log := world.log ++ [.aborted signal] }

/-- A session's fields change. -/
def setFields (session : SessionId) (f : SessionFields → SessionFields) (world : SessionWorld κ) :
    SessionWorld κ :=
  { world with fields := Function.update world.fields session (f (world.fields session)) }

/-- A page event reaches the listeners of an operation. -/
def pageEvent (operation : ℕ) (event : PageEvent) (world : SessionWorld κ) : SessionWorld κ :=
  let locals := world.locals operation
  let observed := { locals with
    settlement := locals.settlement.map fun settlement => settlement.observe event }
  { world with locals := Function.update world.locals operation observed }

/-- One thing happens. -/
def step (pool : SessionPool κ) : GuardedSessionInput κ → SessionPool κ
  | .call session fuel method signal =>
    pool.start (call config session pool.running.length fuel method signal)
  | .answer operation answers => pool.resume operation answers
  | .abort signal reason => pool.move (abort signal reason)
  | .pageEvent operation event => pool.move (pageEvent operation event)
  | .initialized session =>
    pool.move (setFields session fun fields => { fields with readinessInitialized := true })
  | .observed session document =>
    pool.move (setFields session fun fields => { fields with lastReadinessDocument := some document })
  | .disconnected session =>
    pool.move (setFields session fun fields =>
      { fields with closed := true, readinessInitialized := false })
  | .outerMove f => pool.move fun world => { world with outer := f world.outer }

/-- The sessions after these things have happened. -/
def run (outer : κ) (inputs : List (GuardedSessionInput κ)) : SessionPool κ :=
  inputs.foldl (step config) { state := { outer } }

/-! ## What the entries say -/

/-- An entry of a check is the answer of `beforeMutation`. -/
theorem wp_beforeMutation {R G : SessionWorld κ → SessionWorld κ → Prop}
    {Q : Unit → SessionWorld κ → Prop} {E : ThrownError → SessionWorld κ → Prop}
    {world : SessionWorld κ} (command : InterceptedCommand)
    (h : ∀ outcome world', R world world' →
      G world' { world' with log := world'.log ++ [checkEntry operation command outcome] } ∧
        wp R G Q E (settle outcome : SessionM κ Unit)
          { world' with log := world'.log ++ [checkEntry operation command outcome] }) :
    wp R G Q E (beforeMutation operation command) world := by
  rw [beforeMutation, wp_bind]
  intro outcome world' hrely
  exact h outcome world' hrely

/-- An entry of a validation is made at its end, with whatever it has established. -/
theorem wp_performValidation {R G : SessionWorld κ → SessionWorld κ → Prop}
    {P Q : Unit → SessionWorld κ → Prop} {E : ThrownError → SessionWorld κ → Prop}
    {world : SessionWorld κ} {command : InterceptedCommand} {validate : SessionM κ Unit}
    (hvalidate : wp R G P E validate world)
    (h : ∀ world', P () world' →
      G world' { world' with log := world'.log ++ [.validated operation command] } ∧
        Q () { world' with log := world'.log ++ [.validated operation command] }) :
    wp R G Q E (performValidation operation command validate) world := by
  rw [performValidation, wp_bind]
  exact wp_mono hvalidate (fun _ world' hP => h world' hP) fun _ _ hE => hE

/-! ## Aborts -/

/-- An abort logs the signal, unless it is aborted already, and does not touch anything else. -/
theorem abort_cases (signal : OperationSignal) (reason : Option ThrownError)
    (world : SessionWorld κ) :
    (abort signal reason world = world ∧ (world.aborted.lookup signal).isSome = true) ∨
      abort signal reason world =
        { world with
          aborted := world.aborted ++ [(signal, reason)]
          log := world.log ++ [.aborted signal] } := by
  by_cases halready : (world.aborted.lookup signal).isSome = true
  · exact .inl ⟨if_pos halready, halready⟩
  · exact .inr (if_neg halready)

/-- A signal that is logged as aborted is aborted. -/
theorem coherent_abort {world : SessionWorld κ} (h : Coherent world) (signal : OperationSignal)
    (reason : Option ThrownError) : Coherent (abort signal reason world) := by
  rcases abort_cases signal reason world with ⟨hsame, -⟩ | habort
  · rwa [hsame]
  rw [habort]
  intro aborted hmem
  show ((world.aborted ++ [(signal, reason)]).lookup aborted).isSome = true
  rw [List.lookup_append, Option.isSome_or]
  rcases List.mem_append.mp hmem with hmem | hmem
  · rw [h aborted hmem, Bool.true_or]
  · cases List.mem_singleton.mp hmem
    rw [List.lookup_cons_self, Option.isSome_some, Bool.or_true]

end MutationGuardedChromeRemoteInterfaceSession

end Threadwire
