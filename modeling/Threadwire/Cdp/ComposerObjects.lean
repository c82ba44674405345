import Threadwire.Cdp.MutationGuardedChromeRemoteInterfaceSession
import Threadwire.Effect.Monitor

/-!
# The objects of the composer are released

`insertProjectComposerText`, `clickExistingComposerSend` and `clickProjectComposerSend` of
`cdp/ChromeRemoteInterfaceSession.ts` ask the client for objects of the page, keep their ids, and
release what they have kept however they end. The law is one about their transcripts.

Only one answer breaks it. Where `clickExistingComposerSend` gets a form and an exception at once,
it throws before it keeps the form; the other two keep what they get first.

A transcript with the kept ids is balanced when what was obtained is what is kept and what was
dropped. The routines keep it balanced up to the releases, which then release what is kept.
-/

namespace Threadwire

open Coroutine

/-! ## The routines -/

/-- The three routines, with their arguments. -/
inductive ComposerRoutine where
  | insertProjectComposerText (projectLocator : ProjectLocator) (backendDOMNodeId : Rat)
      (text : Text)
  | clickExistingComposerSend (conversationLocator : ConversationLocator) (backendDOMNodeId : Rat)
      (text : Text)
  | clickProjectComposerSend (projectLocator : ProjectLocator)
      (backendDOMNodeId formBackendDOMNodeId : Rat) (text : Text)
deriving DecidableEq, Repr

/-- What the routine returns. -/
abbrev ComposerRoutine.Result : ComposerRoutine → Type
  | .insertProjectComposerText _ _ _ => Option Rat
  | .clickExistingComposerSend _ _ _ | .clickProjectComposerSend _ _ _ _ => Bool

namespace ChromeRemoteInterfaceSession

variable {κ α β : Type}

section Routines

variable (config : ChromeSessionConfig) (session : SessionId) (operation : ℕ)
  (client : SessionClient κ)

/-- `insertProjectComposerText`. -/
def insertProjectComposerText (projectLocator : ProjectLocator) (backendDOMNodeId : Rat)
    (text : Text) (signal : Option OperationSignal) : SessionM κ (Option Rat) := do
  projectComposerDomains config session backendDOMNodeId signal
  withComposerObjects session operation
    "CDP Project composer operation failed without retained protocol metadata."
    (insertIntoComposer operation client projectLocator backendDOMNodeId text signal)

/-- `clickExistingComposerSend`. -/
def clickExistingComposerSend (conversationLocator : ConversationLocator) (backendDOMNodeId : Rat)
    (text : Text) (signal : Option OperationSignal) : SessionM κ Bool := do
  projectComposerDomains config session backendDOMNodeId signal
  withComposerObjects session operation
    "CDP existing-thread composer operation failed without retained protocol metadata."
    (clickExistingSend operation client conversationLocator backendDOMNodeId text signal)

/-- `clickProjectComposerSend`. -/
def clickProjectComposerSend (projectLocator : ProjectLocator)
    (backendDOMNodeId formBackendDOMNodeId : Rat) (text : Text) (signal : Option OperationSignal) :
    SessionM κ Bool := do
  projectComposerDomains config session backendDOMNodeId signal
  onlyIf (!isSafeInteger formBackendDOMNodeId || formBackendDOMNodeId ≤ 0)
    (throw { head := ⟨.typeError, "Project turn form identity is invalid."⟩ })
  withComposerObjects session operation
    "CDP Project composer operation failed without retained protocol metadata."
    (clickProjectSend operation client projectLocator backendDOMNodeId formBackendDOMNodeId text
      signal)

/-- The operations of the session run the routines, and throw where these find nothing to do. -/
theorem insertTextIntoProjectComposer_eq (text : Text) (projectLocator : ProjectLocator)
    (backendDOMNodeId : Rat) (signal : Option OperationSignal) :
    insertTextIntoProjectComposer config session operation client text projectLocator
        backendDOMNodeId signal =
      insertProjectComposerText config session operation client projectLocator backendDOMNodeId text
        signal >>= fun form =>
      match form with
      | some formBackendDOMNodeId => pure formBackendDOMNodeId
      | none =>
        throw (ThrownError.plain "The expected Project composer was unavailable for input.") :=
  (bind_assoc _ _ _).symm

/-- The button of an existing thread is clicked by `clickExistingComposerSend`. -/
theorem clickExistingTurnSendButton_eq (conversationLocator : ConversationLocator)
    (backendDOMNodeId : Rat) (expectedText : Text) (signal : Option OperationSignal) :
    clickExistingTurnSendButton config session operation client conversationLocator
        backendDOMNodeId expectedText signal =
      clickExistingComposerSend config session operation client conversationLocator
        backendDOMNodeId expectedText signal >>= fun clicked =>
      onlyIf (!clicked) (throw (ThrownError.plain
        "The unique enabled existing-thread send control was unavailable.")) :=
  (bind_assoc _ _ _).symm

/-- The button of a project's turn is clicked by `clickProjectComposerSend`. -/
theorem clickTurnSendButton_eq (projectLocator : ProjectLocator)
    (backendDOMNodeId formBackendDOMNodeId : Rat) (expectedText : Text)
    (signal : Option OperationSignal) :
    clickTurnSendButton config session operation client projectLocator backendDOMNodeId
        formBackendDOMNodeId expectedText signal =
      clickProjectComposerSend config session operation client projectLocator backendDOMNodeId
        formBackendDOMNodeId expectedText signal >>= fun clicked =>
      onlyIf (!clicked) (throw (ThrownError.plain
        "The unique enabled turn send control was unavailable.")) := by
  rw [clickProjectComposerSend, bind_assoc]
  exact congrArg _ (funext fun _ => (bind_assoc _ _ _).symm)

/-- The routine. -/
def performRoutine (signal : Option OperationSignal) :
    ∀ routine : ComposerRoutine, SessionM κ routine.Result
  | .insertProjectComposerText projectLocator backendDOMNodeId text =>
    insertProjectComposerText config session operation client projectLocator backendDOMNodeId text
      signal
  | .clickExistingComposerSend conversationLocator backendDOMNodeId text =>
    clickExistingComposerSend config session operation client conversationLocator backendDOMNodeId
      text signal
  | .clickProjectComposerSend projectLocator backendDOMNodeId formBackendDOMNodeId text =>
    clickProjectComposerSend config session operation client projectLocator backendDOMNodeId
      formBackendDOMNodeId text signal

end Routines

/-! ## Transcripts -/

/-- A request of a session with its answer. -/
abbrev SessionExchange := Exchange SessionRequest SessionRequest.Answer

/-- Whether the function returns the form, as an object. -/
def returnsForm : ComposerFunction → Bool
  | .projectForm _ _ | .existingForm _ _ => true
  | _ => false

/-- The object id that the client hands out. -/
def obtained? : SessionExchange → Option String
  | ⟨.observing (.resolveNode _), .ok objectId⟩ => objectId
  | ⟨.intercepted (.callFunctionOn _ function), .ok result⟩ =>
    if returnsForm function then result.objectId else none
  | _ => none

/-- The form that `clickExistingComposerSend` gets together with an exception. -/
def dropped? : SessionExchange → Option String
  | ⟨.intercepted (.callFunctionOn _ (.existingForm _ _)), .ok result⟩ =>
    if result.exceptionDetails then result.objectId else none
  | _ => none

/-- The object id of a call of `releaseObject`. -/
def released? : SessionExchange → Option String
  | ⟨.observing (.releaseObject objectId), _⟩ => some objectId
  | _ => none

/-- Whether the exchange is a release that failed. -/
def failsRelease : SessionExchange → Bool
  | ⟨.observing (.releaseObject _), .error _⟩ => true
  | _ => false

/-- The ids that the client has handed out. -/
def obtained (transcript : List SessionExchange) : List String := transcript.filterMap obtained?

/-- The ids that were released. -/
def released (transcript : List SessionExchange) : List String := transcript.filterMap released?

/-- The forms that came with an exception. -/
def dropped (transcript : List SessionExchange) : List String := transcript.filterMap dropped?

/-- Each id that was handed out was released once and no other one was, and a release that failed
has closed the session and made the routine reject. -/
structure ReleasesObjects (session : SessionId) (world : SessionWorld κ)
    (transcript : List SessionExchange) (outcome : Except ThrownError α) : Prop where
  once : ∀ objectId ∈ obtained transcript, (released transcript).count objectId = 1
  only : ∀ objectId ∈ released transcript, objectId ∈ obtained transcript
  failed : transcript.any failsRelease = true →
    (world.fields session).closed = true ∧ ∃ error, outcome = .error error

/-! ## The account of an operation -/

/-- The sessions, with the transcript of an operation. -/
abbrev Transcribed (κ : Type) := SessionWorld κ × List SessionExchange

/-- What can happen while an operation awaits an answer: nobody else has its local variables, and
nobody opens a closed session. -/
structure Others (session : SessionId) (operation : ℕ) (s s' : Transcribed κ) : Prop where
  objectIds : (s'.1.locals operation).objectIds = (s.1.locals operation).objectIds
  closed : (s.1.fields session).closed = true → (s'.1.fields session).closed = true
  transcript : s'.2 = s.2

/-- The ids that are kept, obtained, released and dropped are the same, and no release has failed
since. -/
structure SameAccount (operation : ℕ) (s s' : Transcribed κ) : Prop where
  objectIds : (s'.1.locals operation).objectIds = (s.1.locals operation).objectIds
  obtained : obtained s'.2 = obtained s.2
  released : released s'.2 = released s.2
  dropped : dropped s'.2 = dropped s.2
  failed : s'.2.any failsRelease = s.2.any failsRelease

variable {session : SessionId} {operation : ℕ} {s s' s'' : Transcribed κ} {x : SessionM κ α}

/-- Nothing has happened to the account. -/
theorem SameAccount.refl (s : Transcribed κ) : SameAccount operation s s := ⟨rfl, rfl, rfl, rfl, rfl⟩

/-- Nothing, and then nothing again. -/
theorem SameAccount.trans (h : SameAccount operation s s') (h' : SameAccount operation s' s'') :
    SameAccount operation s s'' :=
  ⟨h'.objectIds.trans h.objectIds, h'.obtained.trans h.obtained, h'.released.trans h.released,
    h'.dropped.trans h.dropped, h'.failed.trans h.failed⟩

/-- What others do is in no account of this operation. -/
theorem Others.sameAccount (h : Others session operation s s') : SameAccount operation s s' := by
  obtain ⟨hids, -, htranscript⟩ := h
  exact ⟨hids, by rw [htranscript], by rw [htranscript], by rw [htranscript], by rw [htranscript]⟩

instance : Std.Refl (Others session operation : Transcribed κ → Transcribed κ → Prop) where
  refl _ := ⟨rfl, fun h => h, rfl⟩

/-- An exchange that is about none of the objects. -/
structure Neutral (exchange : SessionExchange) : Prop where
  obtained : obtained? exchange = none
  released : released? exchange = none
  dropped : dropped? exchange = none
  failed : failsRelease exchange = false

/-- A neutral exchange is in no account. -/
theorem Neutral.sameAccount {exchange : SessionExchange} (h : Neutral exchange)
    (s : Transcribed κ) : SameAccount operation s (s.1, s.2 ++ [exchange]) where
  objectIds := rfl
  obtained := by
    rw [ChromeRemoteInterfaceSession.obtained, ChromeRemoteInterfaceSession.obtained,
      List.filterMap_append, List.filterMap_cons_none h.obtained, List.filterMap_nil,
      List.append_nil]
  released := by
    rw [ChromeRemoteInterfaceSession.released, ChromeRemoteInterfaceSession.released,
      List.filterMap_append, List.filterMap_cons_none h.released, List.filterMap_nil,
      List.append_nil]
  dropped := by
    rw [ChromeRemoteInterfaceSession.dropped, ChromeRemoteInterfaceSession.dropped,
      List.filterMap_append, List.filterMap_cons_none h.dropped, List.filterMap_nil,
      List.append_nil]
  failed := by rw [List.any_append, List.any_cons, h.failed, List.any_nil, Bool.or_false,
    Bool.or_false]

/-! ## Specifications over transcripts -/

/-- From `s`, among others, the operation ends in a return satisfying `Q` or a throw satisfying `E`,
if it ends. -/
def Spec (session : SessionId) (operation : ℕ) (x : SessionM κ α) (Q : α → Transcribed κ → Prop)
    (E : Transcribed κ → Prop) (s : Transcribed κ) : Prop :=
  wp (Others session operation) (fun _ _ => True) Q (fun _ => E) (x.watch transcriber) s

section Rules

variable {Q Q' : α → Transcribed κ → Prop} {E E' : Transcribed κ → Prop}

/-- A weaker ending. -/
theorem Spec.mono (h : Spec session operation x Q E s) (hQ : ∀ a s', Q a s' → Q' a s')
    (hE : ∀ s', E s' → E' s') : Spec session operation x Q' E' s :=
  wp_mono h hQ fun _ => hE

/-- A value is returned at once. -/
theorem spec_pure {a : α} (h : Q a s) : Spec session operation (pure a) Q E s := h

/-- An error is thrown at once. -/
theorem spec_throw {error : ThrownError} (h : E s) :
    Spec session operation (throw error : SessionM κ α) Q E s := h

/-- The second part starts where the first one has ended. -/
theorem Spec.bind {P : α → Transcribed κ → Prop} {f : α → SessionM κ β}
    {Q : β → Transcribed κ → Prop} (hx : Spec session operation x P E s)
    (hf : ∀ a s', P a s' → Spec session operation (f a) Q E s') :
    Spec session operation (x >>= f) Q E s := by
  rw [Spec, watch_bind, wp_bind]
  exact wp_mono hx hf fun _ _ h => h

/-- The handler starts where the part has thrown. -/
theorem Spec.handle {handler : ThrownError → SessionM κ α} (hx : Spec session operation x Q E' s)
    (hh : ∀ error s', E' s' → Spec session operation (handler error) Q E s') :
    Spec session operation (Coroutine.handle x handler) Q E s := by
  rw [Spec, watch_handle, wp_handle]
  exact wp_mono hx (fun _ _ h => h) hh

/-- An outcome that is kept as a value. -/
theorem Spec.attempt {Q : Except ThrownError α → Transcribed κ → Prop}
    (hx : Spec session operation x (fun a => Q (.ok a)) (fun s' => ∀ error, Q (.error error) s') s) :
    Spec session operation (Coroutine.attempt x) Q E s := by
  rw [Spec, watch_attempt, wp_attempt]
  exact wp_mono hx (fun _ _ h => h) fun error _ h => h error

/-- Either branch, where its condition holds. -/
theorem spec_ite {c : Prop} [Decidable c] {y : SessionM κ α}
    (hx : c → Spec session operation x Q E s) (hy : ¬ c → Spec session operation y Q E s) :
    Spec session operation (if c then x else y) Q E s := by
  split
  · next h => exact hx h
  · next h => exact hy h

/-- The world is read. -/
theorem spec_get {Q : SessionWorld κ → Transcribed κ → Prop} (h : Q s.1 s) :
    Spec session operation get Q E s := ⟨trivial, h⟩

/-- The world is changed. -/
theorem spec_modify {f : SessionWorld κ → SessionWorld κ} {Q : PUnit → Transcribed κ → Prop}
    (h : Q ⟨⟩ (f s.1, s.2)) : Spec session operation (modify f) Q E s := ⟨trivial, h⟩

/-- An answer may come after others have gone on. -/
theorem spec_ask {request : SessionRequest} {Q : request.Answer → Transcribed κ → Prop}
    (h : ∀ answer s', Others session operation s s' → Q answer (s'.1, s'.2 ++ [⟨request, answer⟩])) :
    Spec session operation (ask request) Q E s :=
  fun answer s' hothers => ⟨trivial, h answer s' hothers⟩

end Rules

/-! ## Parts that are about none of the objects -/

/-- The part leaves the account as it is. -/
def KeepsAccount (session : SessionId) (operation : ℕ) (x : SessionM κ α) : Prop :=
  ∀ s, Spec session operation x (fun _ => SameAccount operation s) (SameAccount operation s) s

section Keeps

variable {Q : α → Transcribed κ → Prop} {E : Transcribed κ → Prop}

/-- A value is in no account. -/
theorem keeps_pure (a : α) : KeepsAccount session operation (pure a : SessionM κ α) :=
  SameAccount.refl

/-- Neither is an error. -/
theorem keeps_throw (error : ThrownError) :
    KeepsAccount session operation (throw error : SessionM κ α) :=
  SameAccount.refl

/-- Neither is what an answer comes to. -/
theorem keeps_settle (outcome : Except ThrownError α) :
    KeepsAccount session operation (settle outcome : SessionM κ α) := by
  cases outcome with
  | ok a => exact keeps_pure a
  | error error => exact keeps_throw error

/-- The world may be read. -/
theorem keeps_get : KeepsAccount session operation (get : SessionM κ (SessionWorld κ)) :=
  fun s => spec_get (SameAccount.refl s)

/-- A change that leaves the operation's ids leaves the account. -/
theorem keeps_modify {f : SessionWorld κ → SessionWorld κ}
    (h : ∀ world, ((f world).locals operation).objectIds = (world.locals operation).objectIds) :
    KeepsAccount session operation (modify f : SessionM κ PUnit) :=
  fun s => spec_modify ⟨h s.1, rfl, rfl, rfl, rfl⟩

/-- A request whose exchange is neutral leaves it. -/
theorem keeps_ask {request : SessionRequest} (h : ∀ answer, Neutral ⟨request, answer⟩) :
    KeepsAccount session operation (ask request : SessionM κ request.Answer) :=
  fun _ => spec_ask fun answer s' hothers =>
    hothers.sameAccount.trans ((h answer).sameAccount s')

/-- One part after the other. -/
theorem KeepsAccount.bind {f : α → SessionM κ β} (hx : KeepsAccount session operation x)
    (hf : ∀ a, KeepsAccount session operation (f a)) : KeepsAccount session operation (x >>= f) :=
  fun s => Spec.bind (hx s) fun a s' h => (hf a s').mono (fun _ _ => h.trans) fun _ => h.trans

/-- A part with its handler. -/
theorem KeepsAccount.handle {handler : ThrownError → SessionM κ α}
    (hx : KeepsAccount session operation x)
    (hh : ∀ error, KeepsAccount session operation (handler error)) :
    KeepsAccount session operation (Coroutine.handle x handler) :=
  fun s => Spec.handle (hx s) fun error s' h => (hh error s').mono (fun _ _ => h.trans)
    fun _ => h.trans

/-- Either branch. -/
theorem KeepsAccount.ite {c : Prop} [Decidable c] {y : SessionM κ α}
    (hx : KeepsAccount session operation x) (hy : KeepsAccount session operation y) :
    KeepsAccount session operation (if c then x else y) := by
  split
  · exact hx
  · exact hy

/-- A part that may be skipped. -/
theorem KeepsAccount.onlyIf {condition : Bool} {x : SessionM κ Unit}
    (hx : KeepsAccount session operation x) :
    KeepsAccount session operation (Coroutine.onlyIf condition x) :=
  hx.ite (keeps_pure ())

/-- What follows a part that is about none of the objects. -/
theorem KeepsAccount.seq {f : α → SessionM κ β} {Q : β → Transcribed κ → Prop}
    (hx : KeepsAccount session operation x) (hE : ∀ s', SameAccount operation s s' → E s')
    (hf : ∀ a s', SameAccount operation s s' → Spec session operation (f a) Q E s') :
    Spec session operation (x >>= f) Q E s :=
  Spec.bind ((hx s).mono (fun _ _ h => h) hE) hf

/-- A test of the signal. -/
theorem keeps_throwIfAborted (signal : Option OperationSignal) :
    KeepsAccount session operation (throwIfAborted signal : SessionM κ Unit) := by
  refine keeps_get.bind fun world => ?_
  cases signal.bind fun signal => world.aborted.lookup signal with
  | none => exact keeps_pure ()
  | some reason => exact keeps_throw _

/-- An entry of the log is no object. -/
theorem keeps_record (entry : SessionLogEntry) :
    KeepsAccount session operation (record entry : SessionM κ Unit) :=
  keeps_modify fun _ => rfl

/-- A look at the page that hands out no object. -/
theorem keeps_observe {command : ObservingCommand}
    (h : ∀ answer, Neutral ⟨.observing command, answer⟩) :
    KeepsAccount session operation (observe command : SessionM κ command.Answer) :=
  (keeps_ask h).bind fun outcome => keeps_settle outcome

/-- An error in another's place. -/
theorem keeps_replacing (message : String) (hx : KeepsAccount session operation x) :
    KeepsAccount session operation (replacing message x) :=
  hx.handle fun _ => keeps_throw _

end Keeps

/-! ## What the client sends -/

section Client

variable {store : Option (MutationScope κ)} {command : InterceptedCommand}

open MutationGuardedChromeRemoteInterfaceSession

/-- Whether a guard of the scope is run before the command. -/
def hasSemanticGuard : InterceptedCommand → Bool
  | .focus _ | .dispatchMouseEvent _ => true
  | _ => false

/-- A command that failed has handed out nothing. -/
theorem neutral_error (error : ThrownError) :
    Neutral ⟨.intercepted command, .error error⟩ := by
  cases command with
  | callFunctionOn objectId function => cases function <;> exact ⟨rfl, rfl, rfl, rfl⟩
  | _ => exact ⟨rfl, rfl, rfl, rfl⟩

/-- The last thing that sending a command does is the exchange. -/
theorem spec_send (command : InterceptedCommand) :
    Spec session operation (send operation command : SessionM κ command.Answer)
      (fun answer s' => ∃ s₁, SameAccount operation s s₁ ∧
        s' = (s₁.1, s₁.2 ++ [⟨.intercepted command, .ok answer⟩]))
      (SameAccount operation s) s := by
  refine (keeps_record (.sent operation command)).seq (fun _ h => h) fun _ s₁ h₁ => ?_
  refine Spec.bind (P := fun outcome s' => ∃ s₂, SameAccount operation s s₂ ∧
    s' = (s₂.1, s₂.2 ++ [⟨.intercepted command, outcome⟩])) ?_ fun outcome s' h => ?_
  · exact spec_ask fun _ s₂ hothers => ⟨s₂, h₁.trans hothers.sameAccount, rfl⟩
  · obtain ⟨s₂, h₂, rfl⟩ := h
    cases outcome with
    | ok answer => exact ⟨s₂, h₂, rfl⟩
    | error error => exact h₂.trans ((neutral_error error).sameAccount s₂)

/-- The check of a command is about none of the objects. -/
theorem keeps_beforeMutation (command : InterceptedCommand) :
    KeepsAccount session operation (beforeMutation operation command : SessionM κ Unit) := by
  refine (keeps_ask fun _ => ⟨rfl, rfl, rfl, rfl⟩).bind fun outcome => ?_
  refine (keeps_record _).bind fun _ => ?_
  cases outcome with
  | ok _ => exact keeps_pure ()
  | error error => exact keeps_throw error

/-- A command goes to the client as it is, after checks that are about none of the objects. -/
theorem spec_intercepted (hplain : hasSemanticGuard command = false) :
    Spec session operation ((mutationAwareClient operation store).intercepted command)
      (fun answer s' => ∃ s₁, SameAccount operation s s₁ ∧
        s' = (s₁.1, s₁.2 ++ [⟨.intercepted command, .ok answer⟩]))
      (SameAccount operation s) s := by
  cases store with
  | none => exact spec_send command
  | some scope =>
    refine spec_ite (fun _ => ?_) fun _ => spec_send command
    have hguard : semanticGuard operation scope command = pure () := by
      cases command <;> first | rfl | exact nomatch hplain
    refine (keeps_throwIfAborted _).seq (fun _ h => h) fun _ s₁ h₁ => ?_
    refine (keeps_beforeMutation command).seq (fun _ h => h₁.trans h) fun _ s₂ h₂ => ?_
    refine (keeps_throwIfAborted _).seq (fun _ h => (h₁.trans h₂).trans h) fun _ s₃ h₃ => ?_
    rw [hguard]
    have hsame := (h₁.trans h₂).trans h₃
    refine (spec_send command).mono (fun answer s' h => ?_) fun _ h => hsame.trans h
    obtain ⟨s₄, h₄, rfl⟩ := h
    exact ⟨s₄, hsame.trans h₄, rfl⟩

/-- A command without a guard of its own is sent as it is. -/
theorem keeps_intercepted (hplain : hasSemanticGuard command = false)
    (h : ∀ answer, Neutral ⟨.intercepted command, .ok answer⟩) :
    KeepsAccount session operation ((mutationAwareClient operation store).intercepted command) := by
  refine fun s => (spec_intercepted hplain).mono (fun answer s' h' => ?_) fun _ h' => h'
  obtain ⟨s₁, h₁, rfl⟩ := h'
  exact h₁.trans ((h answer).sameAccount s₁)

/-- A call of a function that does not return the form. -/
theorem keeps_callFunctionOn {objectId : String} {function : ComposerFunction}
    (hform : returnsForm function = false) : KeepsAccount session operation
      ((mutationAwareClient operation store).intercepted (.callFunctionOn objectId function)) := by
  refine keeps_intercepted rfl fun answer => ⟨?_, rfl, ?_, rfl⟩
  · show (if returnsForm function then answer.objectId else none) = none
    rw [hform]
    rfl
  · cases function <;> first | rfl | exact nomatch hform

end Client

/-! ## What is kept -/

/-- What was obtained is kept or was dropped, and nothing was released yet. An empty id is not
kept, so nothing is said once there is one. -/
structure Balanced (operation : ℕ) (s : Transcribed κ) : Prop where
  unreleased : released s.2 = []
  unfailed : s.2.any failsRelease = false
  balance : "" ∈ obtained s.2 ∨
    (obtained s.2).Perm ((s.1.locals operation).objectIds ++ dropped s.2)

/-- What leaves the account leaves the balance. -/
theorem Balanced.same (h : Balanced operation s) (hsame : SameAccount operation s s') :
    Balanced operation s' where
  unreleased := hsame.released.trans h.unreleased
  unfailed := hsame.failed.trans h.unfailed
  balance := by
    rw [hsame.obtained, hsame.objectIds, hsame.dropped]
    exact h.balance

/-- The part keeps the balance. -/
def KeepsBalance (session : SessionId) (operation : ℕ) (x : SessionM κ α) : Prop :=
  ∀ s, Balanced operation s →
    Spec session operation x (fun _ => Balanced operation) (Balanced operation) s

section Balance

/-- A part that leaves the account keeps the balance. -/
theorem KeepsAccount.keepsBalance (hx : KeepsAccount session operation x) :
    KeepsBalance session operation x :=
  fun s h => (hx s).mono (fun _ _ => h.same) fun _ => h.same

/-- One part after the other. -/
theorem KeepsBalance.bind {f : α → SessionM κ β} (hx : KeepsBalance session operation x)
    (hf : ∀ a, KeepsBalance session operation (f a)) : KeepsBalance session operation (x >>= f) :=
  fun s h => Spec.bind (hx s h) fun a s' => hf a s'

/-- A value. -/
theorem keepsBalance_pure (a : α) : KeepsBalance session operation (pure a : SessionM κ α) :=
  (keeps_pure a).keepsBalance

/-- One id more was handed out. -/
theorem obtained_snoc {exchange : SessionExchange} {objectId : String}
    (transcript : List SessionExchange) (h : obtained? exchange = some objectId) :
    obtained (transcript ++ [exchange]) = obtained transcript ++ [objectId] := by
  rw [obtained, List.filterMap_append, List.filterMap_cons_some h, List.filterMap_nil, obtained]

/-- An exchange that drops no form. -/
theorem dropped_snoc_of_none {exchange : SessionExchange} (transcript : List SessionExchange)
    (h : dropped? exchange = none) : dropped (transcript ++ [exchange]) = dropped transcript := by
  rw [dropped, List.filterMap_append, List.filterMap_cons_none h, List.filterMap_nil,
    List.append_nil, dropped]

/-- One form more was dropped. -/
theorem dropped_snoc {exchange : SessionExchange} {objectId : String}
    (transcript : List SessionExchange) (h : dropped? exchange = some objectId) :
    dropped (transcript ++ [exchange]) = dropped transcript ++ [objectId] := by
  rw [dropped, List.filterMap_append, List.filterMap_cons_some h, List.filterMap_nil, dropped]

/-- An exchange that releases nothing. -/
theorem released_snoc_of_none {exchange : SessionExchange} (transcript : List SessionExchange)
    (h : released? exchange = none) : released (transcript ++ [exchange]) = released transcript := by
  rw [released, List.filterMap_append, List.filterMap_cons_none h, List.filterMap_nil,
    List.append_nil, released]

/-- An id that is obtained and kept at once. -/
theorem Balanced.push (h : Balanced operation s) {exchange : SessionExchange} {objectId : String}
    (hobtained : obtained? exchange = some objectId) (hreleased : released? exchange = none)
    (hdropped : dropped? exchange = none) (hfailed : failsRelease exchange = false) :
    Spec session operation (pushObjectId operation objectId) (fun _ => Balanced operation)
      (Balanced operation) (s.1, s.2 ++ [exchange]) := by
  refine spec_modify ⟨?_, ?_, ?_⟩
  · exact (released_snoc_of_none s.2 hreleased).trans h.unreleased
  · show (s.2 ++ [exchange]).any failsRelease = false
    rw [List.any_append, List.any_cons, List.any_nil, hfailed, h.unfailed]
    rfl
  · show "" ∈ obtained (s.2 ++ [exchange]) ∨ (obtained (s.2 ++ [exchange])).Perm
      ((Function.update s.1.locals operation _ operation).objectIds ++ dropped (s.2 ++ [exchange]))
    rw [obtained_snoc s.2 hobtained, dropped_snoc_of_none s.2 hdropped, Function.update_self]
    refine h.balance.imp (fun hmem => List.mem_append_left _ hmem) fun hperm => ?_
    exact (hperm.append_right [objectId]).trans (by
      rw [List.append_assoc, List.append_assoc]
      exact (List.perm_append_comm).append_left _)

/-- An id that is obtained and not kept: it is empty, or it was dropped. -/
theorem Balanced.lose (h : Balanced operation s) {exchange : SessionExchange} (objectId : String)
    (hobtained : obtained? exchange = some objectId) (hreleased : released? exchange = none)
    (hfailed : failsRelease exchange = false)
    (hlost : objectId = "" ∨ dropped? exchange = some objectId) :
    Balanced operation (s.1, s.2 ++ [exchange]) where
  unreleased := (released_snoc_of_none s.2 hreleased).trans h.unreleased
  unfailed := by
    show (s.2 ++ [exchange]).any failsRelease = false
    rw [List.any_append, List.any_cons, List.any_nil, hfailed, h.unfailed]
    rfl
  balance := by
    show "" ∈ obtained (s.2 ++ [exchange]) ∨ (obtained (s.2 ++ [exchange])).Perm
      ((s.1.locals operation).objectIds ++ dropped (s.2 ++ [exchange]))
    rw [obtained_snoc s.2 hobtained]
    rcases hlost with rfl | hdropped
    · exact .inl (List.mem_append_right _ (List.mem_singleton_self _))
    · rw [dropped_snoc s.2 hdropped, ← List.append_assoc]
      exact h.balance.imp (fun hmem => List.mem_append_left _ hmem) fun hperm =>
        hperm.append_right [objectId]

/-- Resolving a node keeps the id, or throws. -/
theorem keepsBalance_resolveObject (message : String) (backendNodeId : Rat) :
    KeepsBalance session operation
      (resolveObject operation message backendNodeId : SessionM κ String) := by
  intro s h
  refine Spec.bind (P := fun objectId s' => ∃ s₁, Balanced operation s₁ ∧
    s' = (s₁.1, s₁.2 ++ [⟨.observing (.resolveNode backendNodeId), .ok objectId⟩])) ?_
    fun objectId s' h' => ?_
  · refine Spec.bind (P := fun outcome s' => ∃ s₁, Balanced operation s₁ ∧
      s' = (s₁.1, s₁.2 ++ [⟨.observing (.resolveNode backendNodeId), outcome⟩])) ?_
      fun outcome s' h' => ?_
    · exact spec_ask fun _ s₁ hothers => ⟨s₁, h.same hothers.sameAccount, rfl⟩
    obtain ⟨s₁, h₁, rfl⟩ := h'
    cases outcome with
    | ok objectId => exact ⟨s₁, h₁, rfl⟩
    | error error => exact h₁.same ((⟨rfl, rfl, rfl, rfl⟩ : Neutral _).sameAccount s₁)
  · obtain ⟨s₁, h₁, rfl⟩ := h'
    cases objectId with
    | none => exact h₁.same ((⟨rfl, rfl, rfl, rfl⟩ : Neutral _).sameAccount s₁)
    | some objectId =>
      -- an empty id is refused, and the routine throws without it
      by_cases hempty : objectId = ""
      · have hlost : Balanced operation (s₁.1, s₁.2 ++
            [⟨.observing (.resolveNode backendNodeId), .ok (some objectId)⟩]) :=
          h₁.lose objectId rfl rfl rfl (.inl hempty)
        subst hempty
        exact hlost
      · have hkept : (objectId == "") = false := by simpa using hempty
        dsimp only
        rw [hkept]
        show Spec session operation (pushObjectId operation objectId >>= fun _ => pure objectId) _ _ _
        exact Spec.bind (h₁.push rfl rfl rfl rfl) fun _ _ h₂ => h₂

/-- The text is read without an object. -/
theorem keeps_projectComposerAxTextMatches (backendDOMNodeId : Rat) (text : Text)
    (signal : Option OperationSignal) : KeepsAccount session operation
      (projectComposerAxTextMatches backendDOMNodeId text signal : SessionM κ Bool) := by
  refine (keeps_throwIfAborted signal).bind fun _ => ?_
  refine (keeps_observe fun _ => ⟨rfl, rfl, rfl, rfl⟩).bind fun frame => ?_
  refine (keeps_throwIfAborted signal).bind fun _ => ?_
  refine (keeps_observe fun _ => ⟨rfl, rfl, rfl, rfl⟩).bind fun tree => ?_
  refine (keeps_throwIfAborted signal).bind fun _ => ?_
  split <;> exact keeps_pure _

end Balance

/-! ## The routines keep the balance -/

section Bodies

open MutationGuardedChromeRemoteInterfaceSession

variable {store : Option (MutationScope κ)} {signal : Option OperationSignal}

/-- The click returns no form. -/
theorem keeps_clickSend (malformed composer : String) {click : ComposerFunction}
    (hclick : returnsForm click = false) : KeepsAccount session operation
      (clickSend (mutationAwareClient operation store) malformed composer click signal) := by
  refine (keeps_throwIfAborted signal).bind fun _ => ?_
  refine (keeps_callFunctionOn hclick).bind fun clicked => ?_
  refine (keeps_throwIfAborted signal).bind fun _ => ?_
  split
  · exact keeps_pure _
  · exact keeps_throw _

/-- Neither does the validation before it. -/
theorem keeps_validateAndClick (malformed composer : String) {validation : ComposerFunction}
    {click : String → Option String → ComposerFunction} (backendDOMNodeId : Rat) (text : Text)
    (hvalidation : returnsForm validation = false)
    (hclick : ∀ kind expectedHtml, returnsForm (click kind expectedHtml) = false) :
    KeepsAccount session operation (validateAndClick (mutationAwareClient operation store) malformed
      composer validation click backendDOMNodeId text signal) := by
  refine (keeps_throwIfAborted signal).bind fun _ => ?_
  refine (keeps_callFunctionOn hvalidation).bind fun result => ?_
  refine (keeps_throwIfAborted signal).bind fun _ => ?_
  refine (keeps_throw _).onlyIf.bind fun _ => ?_
  split
  · exact keeps_pure _
  · exact keeps_pure _
  · exact keeps_throw _
  · exact keeps_throw _
  · exact keeps_throw _
  · rename_i kind html _
    refine (keeps_throw _).onlyIf.bind fun _ => ?_
    have hsend : ∀ textVerified : Bool, KeepsAccount session operation
        (if textVerified then clickSend (mutationAwareClient operation store) malformed composer
          (click kind (if kind = "AX_REQUIRED" then html else none)) signal
        else pure false) := fun textVerified =>
      (keeps_clickSend malformed composer (hclick _ _)).ite (keeps_pure false)
    exact KeepsAccount.ite ((keeps_projectComposerAxTextMatches _ text signal).bind hsend)
      ((keeps_pure true).bind hsend)

/-- `insertProjectComposerText` keeps the form before it looks at the exception. -/
theorem keepsBalance_insertIntoComposer (projectLocator : ProjectLocator) (backendDOMNodeId : Rat)
    (text : Text) : KeepsBalance session operation
      (insertIntoComposer operation (mutationAwareClient operation store) projectLocator
        backendDOMNodeId text signal) := by
  refine (keepsBalance_resolveObject _ _).bind fun composer => ?_
  refine (keeps_throwIfAborted signal).keepsBalance.bind fun _ s h => ?_
  refine Spec.bind ((spec_intercepted rfl).mono (fun _ _ h => h) fun _ => h.same)
    fun result s' h' => ?_
  obtain ⟨s₁, hsame, rfl⟩ := h'
  have h₁ := h.same hsame
  obtain ⟨value, objectId, exceptionDetails⟩ := result
  cases objectId with
  | none =>
    refine (keeps_throwIfAborted signal).keepsBalance.bind (fun _ => keepsBalance_pure none) _ ?_
    exact h₁.same ((⟨rfl, rfl, rfl, rfl⟩ : Neutral _).sameAccount s₁)
  | some form =>
    -- from here on the form's id is kept, so nothing that follows can lose it
    refine Spec.bind (h₁.push rfl rfl rfl rfl) fun _ s₂ h₂ => KeepsAccount.keepsBalance ?_ s₂ h₂
    refine (keeps_throwIfAborted signal).bind fun _ => (keeps_pure none).ite ?_
    refine (keeps_observe fun _ => ⟨rfl, rfl, rfl, rfl⟩).bind fun described => ?_
    refine (keeps_throwIfAborted signal).bind fun _ => ?_
    split
    · exact keeps_pure none
    refine (keeps_callFunctionOn rfl).bind fun revalidated => ?_
    refine (keeps_throwIfAborted signal).bind fun _ => (keeps_pure none).ite ?_
    refine (keeps_replacing _ (keeps_intercepted rfl fun _ => ⟨rfl, rfl, rfl, rfl⟩)).bind
      fun _ => ?_
    refine (keeps_throwIfAborted signal).bind fun _ => ?_
    refine (keeps_callFunctionOn rfl).bind fun verified => ?_
    refine (keeps_throwIfAborted signal).bind fun _ => (keeps_pure none).ite ?_
    refine (keeps_pure _).ite (KeepsAccount.ite ?_ (keeps_pure none))
    exact (keeps_projectComposerAxTextMatches _ _ _).bind fun _ => keeps_pure _

/-- The routine of a project gets both its objects by their nodes. -/
theorem keepsBalance_clickProjectSend (projectLocator : ProjectLocator)
    (backendDOMNodeId formBackendDOMNodeId : Rat) (text : Text) : KeepsBalance session operation
      (clickProjectSend operation (mutationAwareClient operation store) projectLocator
        backendDOMNodeId formBackendDOMNodeId text signal) := by
  refine (keepsBalance_resolveObject _ _).bind fun composer => ?_
  refine (keeps_throwIfAborted signal).keepsBalance.bind fun _ => ?_
  refine (keepsBalance_resolveObject _ _).bind fun form => ?_
  exact (keeps_validateAndClick _ _ _ _ rfl fun _ _ => rfl).keepsBalance

/-- `clickExistingComposerSend` drops a form that comes with an exception. -/
theorem keepsBalance_clickExistingSend (conversationLocator : ConversationLocator)
    (backendDOMNodeId : Rat) (text : Text) : KeepsBalance session operation
      (clickExistingSend operation (mutationAwareClient operation store) conversationLocator
        backendDOMNodeId text signal) := by
  refine (keepsBalance_resolveObject _ _).bind fun composer => ?_
  refine (keeps_throwIfAborted signal).keepsBalance.bind fun _ s h => ?_
  refine Spec.bind ((spec_intercepted rfl).mono (fun _ _ h => h) fun _ => h.same)
    fun result s' h' => ?_
  obtain ⟨s₁, hsame, rfl⟩ := h'
  have h₁ := h.same hsame
  obtain ⟨value, objectId, exceptionDetails⟩ := result
  cases objectId with
  | none =>
    have hneutral : Neutral ⟨.intercepted (.callFunctionOn composer
        (.existingForm conversationLocator text)), .ok ⟨value, none, exceptionDetails⟩⟩ :=
      ⟨rfl, rfl, by cases exceptionDetails <;> rfl, rfl⟩
    cases exceptionDetails <;> exact spec_throw (h₁.same (hneutral.sameAccount s₁))
  | some form =>
    cases exceptionDetails with
    | true =>
      exact spec_throw (h₁.lose form rfl rfl rfl (.inr rfl))
    | false =>
      by_cases hempty : form = ""
      · subst hempty
        exact spec_throw (h₁.lose "" rfl rfl rfl (.inl rfl))
      · have hkept : (some form).filter (fun form => decide (form ≠ "")) = some form := by
          simp [hempty]
        dsimp only
        rw [hkept]
        refine Spec.bind (h₁.push rfl rfl rfl rfl) fun _ s₂ h₂ => KeepsAccount.keepsBalance ?_ s₂ h₂
        exact keeps_validateAndClick _ _ _ _ rfl fun _ _ => rfl

end Bodies

/-! ## The releases -/

/-- What was obtained was released or dropped. -/
def Settled (s : Transcribed κ) : Prop :=
  "" ∈ obtained s.2 ∨ (obtained s.2).Perm (released s.2 ++ dropped s.2)

/-- A release that failed has closed the session. -/
def ClosedOnFailure (session : SessionId) (s : Transcribed κ) : Prop :=
  s.2.any failsRelease = true → (s.1.fields session).closed = true

/-- These ids have been released since, and `failed` says whether one of the releases failed. -/
structure Releases (objectIds : List String) (failed : Bool) (s s' : Transcribed κ) : Prop where
  obtained : obtained s'.2 = obtained s.2
  dropped : dropped s'.2 = dropped s.2
  released : released s'.2 = released s.2 ++ objectIds
  failed : s'.2.any failsRelease = (s.2.any failsRelease || failed)

section Release

/-- Without ids nothing is released. -/
theorem releases_nil (s : Transcribed κ) : Releases [] false s s :=
  ⟨rfl, rfl, (List.append_nil _).symm, (Bool.or_false _).symm⟩

/-- A release of one id, with its outcome. -/
theorem releases_exchange (hsame : SameAccount operation s s') (objectId : String)
    (outcome : Except ThrownError Unit) : Releases [objectId] (!outcome.isOk) s
      (s'.1, s'.2 ++ [⟨.observing (.releaseObject objectId), outcome⟩]) where
  obtained := by
    rw [← hsame.obtained, obtained, List.filterMap_append]
    exact List.append_nil _
  dropped := by
    rw [← hsame.dropped, dropped, List.filterMap_append]
    exact List.append_nil _
  released := by
    rw [← hsame.released, released, List.filterMap_append]
    rfl
  failed := by
    rw [← hsame.failed, List.any_append]
    cases outcome <;> rfl

/-- First these ids, then those. -/
theorem Releases.trans {objectIds objectIds' : List String} {failed failed' : Bool}
    (h : Releases objectIds failed s s') (h' : Releases objectIds' failed' s' s'') :
    Releases (objectIds ++ objectIds') (failed || failed') s s'' where
  obtained := h'.obtained.trans h.obtained
  dropped := h'.dropped.trans h.dropped
  released := by rw [h'.released, h.released, List.append_assoc]
  failed := by rw [h'.failed, h.failed, Bool.or_assoc]

/-- Each of the ids is released, also after one has failed. -/
theorem spec_releaseObjects (objectIds : List String) (s : Transcribed κ) :
    Spec session operation (releaseObjects objectIds) (fun failed s' => Releases objectIds failed s s')
      (fun _ => False) s := by
  induction objectIds generalizing s with
  | nil => exact spec_pure (releases_nil s)
  | cons objectId objectIds ih =>
    refine Spec.bind (P := fun outcome s' => Releases [objectId] (!outcome.isOk) s s')
      (Spec.attempt ?_) fun outcome s₁ h₁ => ?_
    · refine Spec.bind (P := fun outcome s' => ∃ s₁, SameAccount operation s s₁ ∧
        s' = (s₁.1, s₁.2 ++ [⟨.observing (.releaseObject objectId), outcome⟩])) ?_
        fun outcome s' h => ?_
      · exact spec_ask fun _ s₁ hothers => ⟨s₁, hothers.sameAccount, rfl⟩
      obtain ⟨s₁, hsame, rfl⟩ := h
      cases outcome with
      | ok _ => exact releases_exchange hsame objectId (.ok ())
      | error error =>
        exact fun error' => releases_exchange hsame objectId (.error error)
    · refine Spec.bind (ih s₁) fun failed s₂ h₂ => ?_
      have hboth := h₁.trans h₂
      cases outcome with
      | ok _ => exact spec_pure hboth
      | error error => exact spec_pure hboth

/-- `close` closes the session, whatever the client answers. -/
theorem spec_close (s : Transcribed κ) : Spec session operation (close session)
    (fun _ s' => SameAccount operation s s' ∧ (s'.1.fields session).closed = true)
    (fun s' => SameAccount operation s s' ∧ (s'.1.fields session).closed = true) s := by
  refine Spec.bind (P := fun world s' => world = s.1 ∧ s = s') (spec_get ⟨rfl, rfl⟩) ?_
  rintro _ _ ⟨rfl, rfl⟩
  refine spec_ite (fun hclosed => ?_) fun _ => ?_
  · exact spec_pure ⟨SameAccount.refl s, hclosed⟩
  refine Spec.bind (P := fun _ s' => SameAccount operation s s' ∧
    (s'.1.fields session).closed = true) ⟨trivial, ⟨⟨rfl, rfl, rfl, rfl, rfl⟩, ?_⟩⟩ ?_
  · show (Function.update s.1.fields session _ session).closed = true
    rw [Function.update_self]
  rintro _ s₁ ⟨h₁, hclosed⟩
  refine Spec.bind (P := fun _ s' => SameAccount operation s s' ∧
    (s'.1.fields session).closed = true) ?_ fun outcome s₂ h₂ => ?_
  · refine spec_ask fun answer s₂ hothers => ⟨?_, hothers.closed hclosed⟩
    exact (h₁.trans hothers.sameAccount).trans
      ((⟨rfl, rfl, rfl, rfl⟩ : Neutral _).sameAccount s₂)
  · cases outcome <;> exact h₂

/-- All that was kept is released, the last one first, so what was obtained is accounted for. -/
theorem Balanced.released (h : Balanced operation s) {failed : Bool}
    (hreleases : Releases (s.1.locals operation).objectIds.reverse failed s s') :
    Settled s' ∧ s'.2.any failsRelease = failed := by
  refine ⟨?_, ?_⟩
  · rw [Settled, hreleases.obtained, hreleases.released, hreleases.dropped, h.unreleased,
      List.nil_append]
    exact h.balance.imp_right fun hperm =>
      hperm.trans ((List.reverse_perm _).symm.append_right _)
  · rw [hreleases.failed, h.unfailed, Bool.false_or]

/-- What leaves the account leaves it settled. -/
theorem SameAccount.settled (hsame : SameAccount operation s s') (h : Settled s) : Settled s' := by
  rw [Settled, hsame.obtained, hsame.released, hsame.dropped]
  exact h

/-- What is kept is released, and a failure closes the session. -/
theorem spec_releaseProjectComposerObjects (h : Balanced operation s) :
    Spec session operation (releaseProjectComposerObjects session operation)
      (fun _ s' => Settled s' ∧ s'.2.any failsRelease = false)
      (fun s' => Settled s' ∧ ClosedOnFailure session s') s := by
  refine Spec.bind (P := fun world s' => world = s.1 ∧ s = s') (spec_get ⟨rfl, rfl⟩) ?_
  rintro _ _ ⟨rfl, rfl⟩
  refine Spec.bind ((spec_releaseObjects _ s).mono (fun _ _ h => h) fun _ h => h.elim)
    fun failed s₁ hreleases => ?_
  obtain ⟨hsettled, hfailed⟩ := h.released hreleases
  refine spec_ite (fun _ => ?_) fun hnot => ?_
  · refine Spec.bind (P := fun _ s' => SameAccount operation s₁ s' ∧
      (s'.1.fields session).closed = true) (Spec.attempt ?_) fun _ s₂ h₂ => ?_
    · exact (spec_close s₁).mono (fun _ _ h => h) fun _ h _ => h
    · exact spec_throw ⟨h₂.1.settled hsettled, fun _ => h₂.2⟩
  · refine spec_pure ⟨hsettled, ?_⟩
    rw [hfailed]
    simpa using hnot

/-- A routine with its objects released behind it settles the account, however it ends. -/
theorem spec_withComposerObjects (hx : KeepsBalance session operation x) (failure : String)
    (h : Balanced operation s) :
    Spec session operation (withComposerObjects session operation failure x)
      (fun _ s' => Settled s' ∧ s'.2.any failsRelease = false)
      (fun s' => Settled s' ∧ ClosedOnFailure session s') s := by
  refine Spec.bind (P := fun _ => Balanced operation) (Spec.attempt ?_) fun outcome s₁ h₁ => ?_
  · exact (hx s h).mono (fun _ _ h => h) fun _ h _ => h
  refine Spec.bind (spec_releaseProjectComposerObjects h₁) fun _ s₂ h₂ => ?_
  cases outcome with
  | ok a => exact spec_pure h₂
  | error error =>
    refine spec_throw ⟨h₂.1, fun hfailed => ?_⟩
    rw [h₂.2] at hfailed
    cases hfailed

/-- A routine that has not asked for an object yet is balanced, and settled. -/
theorem Balanced.settled (h : Balanced operation s)
    (hkept : (s.1.locals operation).objectIds = []) : Settled s ∧ ClosedOnFailure session s := by
  refine ⟨?_, fun hfailed => ?_⟩
  · have hbalance := h.balance
    rw [hkept, List.nil_append] at hbalance
    rw [Settled, h.unreleased, List.nil_append]
    exact hbalance
  · rw [h.unfailed] at hfailed
    cases hfailed

/-- The domains are enabled without an object. -/
theorem keeps_projectComposerDomains (config : ChromeSessionConfig) (backendDOMNodeId : Rat)
    (signal : Option OperationSignal) : KeepsAccount session operation
      (projectComposerDomains config session backendDOMNodeId signal : SessionM κ Unit) := by
  refine (keeps_throwIfAborted signal).bind fun _ => keeps_get.bind fun world => ?_
  refine (keeps_throw _).onlyIf.bind fun _ => (keeps_throw _).onlyIf.bind fun _ => ?_
  exact (keeps_throw _).onlyIf

open MutationGuardedChromeRemoteInterfaceSession in
/-- Every routine releases what it has obtained and not dropped. -/
theorem spec_performRoutine (config : ChromeSessionConfig) (store : Option (MutationScope κ))
    (signal : Option OperationSignal) (routine : ComposerRoutine) (h : Balanced operation s)
    (hkept : (s.1.locals operation).objectIds = []) :
    Spec session operation
      (performRoutine config session operation (mutationAwareClient operation store) signal routine)
      (fun _ s' => Settled s' ∧ s'.2.any failsRelease = false)
      (fun s' => Settled s' ∧ ClosedOnFailure session s') s := by
  have hstart : ∀ s', SameAccount operation s s' → Settled s' ∧ ClosedOnFailure session s' :=
    fun s' hsame => (h.same hsame).settled (hsame.objectIds.trans hkept)
  cases routine with
  | insertProjectComposerText projectLocator backendDOMNodeId text =>
    refine (keeps_projectComposerDomains config backendDOMNodeId signal).seq hstart fun _ s₁ h₁ => ?_
    exact spec_withComposerObjects (keepsBalance_insertIntoComposer _ _ _) _ (h.same h₁)
  | clickExistingComposerSend conversationLocator backendDOMNodeId text =>
    refine (keeps_projectComposerDomains config backendDOMNodeId signal).seq hstart fun _ s₁ h₁ => ?_
    exact spec_withComposerObjects (keepsBalance_clickExistingSend _ _ _) _ (h.same h₁)
  | clickProjectComposerSend projectLocator backendDOMNodeId formBackendDOMNodeId text =>
    refine (keeps_projectComposerDomains config backendDOMNodeId signal).seq hstart fun _ s₁ h₁ => ?_
    refine (keeps_throw _).onlyIf.seq (fun _ h₂ => hstart _ (h₁.trans h₂)) fun _ s₂ h₂ => ?_
    exact spec_withComposerObjects (keepsBalance_clickProjectSend _ _ _ _) _ (h.same (h₁.trans h₂))

end Release

/-! ## The law -/

section Law

open MutationGuardedChromeRemoteInterfaceSession

/-- A form that was dropped was handed out before. -/
theorem dropped_subset {transcript : List SessionExchange} :
    ∀ objectId ∈ dropped transcript, objectId ∈ obtained transcript := by
  intro objectId hmem
  obtain ⟨exchange, hexchange, hdropped⟩ := List.mem_filterMap.mp hmem
  refine List.mem_filterMap.mpr ⟨exchange, hexchange, ?_⟩
  unfold dropped? at hdropped
  split at hdropped
  · split at hdropped
    · exact hdropped
    · cases hdropped
  · cases hdropped

/-- A routine keeps the law if and only if no form came with an exception. -/
theorem releases_iff {transcript : List SessionExchange} {world : SessionWorld κ}
    {outcome : Except ThrownError α} (hdistinct : (obtained transcript).Nodup)
    (hperm : (obtained transcript).Perm (released transcript ++ dropped transcript))
    (hfailed : transcript.any failsRelease = true →
      (world.fields session).closed = true ∧ ∃ error, outcome = .error error) :
    ReleasesObjects session world transcript outcome ↔
      ∀ exchange ∈ transcript, dropped? exchange = none := by
  have hsplit := List.nodup_append.mp (hperm.nodup_iff.mp hdistinct)
  rw [← List.filterMap_eq_nil_iff]
  constructor
  · intro h
    refine List.eq_nil_iff_forall_not_mem.mpr fun objectId hmem => ?_
    have hreleased : objectId ∈ released transcript := by
      rw [← List.count_pos_iff, h.once objectId (dropped_subset objectId hmem)]
      exact Nat.one_pos
    exact hsplit.2.2 objectId hreleased objectId hmem rfl
  · intro hnone
    have hsame : (obtained transcript).Perm (released transcript) := by
      have hdropped : dropped transcript = [] := hnone
      rwa [hdropped, List.append_nil] at hperm
    exact ⟨fun objectId hmem => List.count_eq_one_of_mem hsplit.1 (hsame.mem_iff.mp hmem),
      fun objectId hmem => hsame.mem_iff.mpr hmem, hfailed⟩

/-- Whatever the client answers and whenever the signal is aborted: when one of the routines has
settled, the objects that were handed out to it are released, each once, and a failure has closed the
session, if and only if `clickExistingComposerSend` got no form together with an exception. -/
theorem composerObjects_released (config : ChromeSessionConfig) (session : SessionId)
    (operation : ℕ) (store : Option (MutationScope κ)) (signal : Option OperationSignal)
    (routine : ComposerRoutine) {world world' : SessionWorld κ} {transcript : List SessionExchange}
    {outcome : Except ThrownError routine.Result}
    (hfresh : (world.locals operation).objectIds = [])
    (hrun : Runs (Others session operation)
      ((performRoutine config session operation (mutationAwareClient operation store) signal
        routine).watch transcriber) (world, []) outcome (world', transcript))
    (hdistinct : (obtained transcript).Nodup) (hnonempty : "" ∉ obtained transcript) :
    ReleasesObjects session world' transcript outcome ↔
      ∀ exchange ∈ transcript, dropped? exchange = none := by
  have hbalanced : Balanced operation (world, []) := by
    refine ⟨rfl, rfl, .inr ?_⟩
    show [].Perm ((world.locals operation).objectIds ++ [])
    rw [hfresh]
    rfl
  have hspec := hrun.spec (spec_performRoutine config store signal routine hbalanced hfresh)
  cases outcome with
  | ok result =>
    obtain ⟨hsettled, hfailed⟩ := hspec
    refine releases_iff hdistinct (hsettled.resolve_left hnonempty) fun hany => ?_
    rw [hfailed] at hany
    cases hany
  | error error =>
    obtain ⟨hsettled, hclosed⟩ := hspec
    exact releases_iff hdistinct (hsettled.resolve_left hnonempty) fun hany =>
      ⟨hclosed hany, error, rfl⟩

/-- A client that hands out a composer and a form, the latter with an exception or without one. -/
def formScript (exceptionDetails : Bool) : ∀ request : SessionRequest, Option request.Answer
  | .observing (.resolveNode _) => some (.ok (some "composer"))
  | .intercepted (.callFunctionOn _ (.existingForm _ _)) =>
    some (.ok ⟨.other, some "form", exceptionDetails⟩)
  | .intercepted (.callFunctionOn _ _) => some (.ok ⟨.null, none, false⟩)
  | .observing (.releaseObject _) => some (.ok ())
  | _ => none

/-- `clickExistingComposerSend` on an open session. -/
def existingSend : Coroutine (Transcribed Unit) SessionRequest SessionRequest.Answer ThrownError
    Bool :=
  (performRoutine ⟨fun _ _ => true, fun _ => none, true, true⟩ 0 0 (mutationAwareClient 0 none) none
    (.clickExistingComposerSend "https://chatgpt.com/c/1" 1 (Text.of "hello"))).watch transcriber

/-- The open session. -/
def openSession : SessionWorld Unit :=
  { outer := (), fields := fun _ => { readinessInitialized := true } }

/-- The transcript of the routine on that client. -/
theorem play_existingSend (exceptionDetails : Bool) : ∃ outcome world transcript,
    Runs (Others 0 0) existingSend (openSession, []) outcome (world, transcript) ∧
      obtained transcript = ["composer", "form"] ∧
      released transcript = (if exceptionDetails then ["composer"] else ["form", "composer"]) ∧
      dropped transcript = if exceptionDetails then ["form"] else [] := by
  have hplay : ((existingSend.play (formScript exceptionDetails) (openSession, [])).map fun run =>
      (obtained run.2.2, released run.2.2, dropped run.2.2)) = some (["composer", "form"],
        if exceptionDetails then ["composer"] else ["form", "composer"],
        if exceptionDetails then ["form"] else []) := by
    revert exceptionDetails
    decide +kernel
  obtain ⟨⟨outcome, world, transcript⟩, hrun, heq⟩ := Option.map_eq_some_iff.mp hplay
  obtain ⟨hobtained, hrest⟩ := Prod.mk.inj heq
  obtain ⟨hreleased, hdropped⟩ := Prod.mk.inj hrest
  exact ⟨outcome, world, transcript, runs_play hrun, hobtained, hreleased, hdropped⟩

/-- The form that comes with an exception is not released. -/
theorem formWithException_kept : ∃ outcome world transcript,
    Runs (Others 0 0) existingSend (openSession, []) outcome (world, transcript) ∧
      (obtained transcript).Nodup ∧ "" ∉ obtained transcript ∧
      ¬ ReleasesObjects 0 world transcript outcome := by
  obtain ⟨outcome, world, transcript, hrun, hobtained, hreleased, -⟩ := play_existingSend true
  refine ⟨outcome, world, transcript, hrun, ?_, ?_, fun h => ?_⟩
  · rw [hobtained]
    decide
  · rw [hobtained]
    decide
  · have honce := h.once "form" (by rw [hobtained]; decide)
    rw [hreleased] at honce
    revert honce
    decide

/-- Without an exception both objects are released. -/
theorem composerObjects_released_existing : ∃ outcome world transcript,
    obtained transcript = ["composer", "form"] ∧
      ReleasesObjects (κ := Unit) (α := Bool) 0 world transcript outcome := by
  obtain ⟨outcome, world, transcript, hrun, hobtained, -, hdropped⟩ := play_existingSend false
  have hdistinct : (obtained transcript).Nodup := by
    rw [hobtained]
    decide
  have hnonempty : "" ∉ obtained transcript := by
    rw [hobtained]
    decide
  have hlaw := composerObjects_released _ 0 0 none none (.clickExistingComposerSend
    "https://chatgpt.com/c/1" 1 (Text.of "hello")) rfl hrun hdistinct hnonempty
  exact ⟨outcome, world, transcript, hobtained, hlaw.mpr (List.filterMap_eq_nil_iff.mp hdropped)⟩

end Law

end ChromeRemoteInterfaceSession

end Threadwire
