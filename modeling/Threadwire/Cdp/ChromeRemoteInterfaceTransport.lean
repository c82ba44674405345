import Threadwire.Cdp.CdpTargetDiscovery

/-!
# Connecting to the target

`cdp/ChromeRemoteInterfaceTransport.ts`: `connect` asks the client library for a client of the
target and makes a session of it. The caller may abort meanwhile, and a client that arrives after
that is closed. The promise of the client has its reactions, which run one by one as microtasks in
the order in which they were added; the inputs say when it settles, when the signal aborts, and when
the next microtask runs.

A client is somebody's: in every run it is handed over in one session, or closed once, or there is
no client.
-/

namespace Threadwire

/-! ## The model -/

/-- A value that the client library yields: which one it is, and the paths at which it has a
function. What is no object has none. -/
structure ConnectedValue where
  identity : ℕ
  functions : List String
deriving DecidableEq, Repr

/-- The functions that `isCriClient` looks for. -/
def criClientFunctions : List String :=
  ["close", "on", "Page.navigate", "Page.reload", "Page.getFrameTree",
    "Accessibility.getFullAXTree", "DOM.focus", "Input.insertText", "Input.dispatchKeyEvent",
    "Network.enable", "Network.requestWillBeSent", "Network.responseReceived",
    "Network.loadingFinished", "Network.loadingFailed"]

/-- `isCriClient`. -/
def isCriClient (value : ConnectedValue) : Bool :=
  criClientFunctions.all fun path => value.functions.contains path

/-- `CdpTransportConnectOptions`; `signal` and `beforeMutation` are whether there is one. -/
structure CdpTransportConnectOptions where
  host : String
  port : ℕ
  target : CdpTargetInfo
  signal : Bool
  beforeMutation : Bool

/-- What the client library is asked to connect to. -/
structure ConnectRequest where
  host : String
  port : ℕ
  target : Text
deriving DecidableEq, Repr

/-- The session of a client. -/
inductive TransportSession where
  | plain (client : ConnectedValue)
  | mutationGuarded (client : ConnectedValue)
deriving DecidableEq, Repr

/-- `createSession`. -/
def createSession (client : ConnectedValue) (options : CdpTransportConnectOptions) :
    TransportSession :=
  if options.beforeMutation then .mutationGuarded client else .plain client

/-- A reaction of the client's promise: `await` where there is no signal, `then` where there is one,
and `closeLateClient`. -/
inductive ClientReaction where
  | continue
  | deliver
  | closeLate
deriving DecidableEq, Repr

/-- A call of `connect`. -/
structure ConnectCall where
  requested : Option ConnectRequest := none
  clientPromise : Option (Except ThrownError ConnectedValue) := none
  reactions : List ClientReaction := []
  microtasks : List ClientReaction := []
  aborted : Option (Option ThrownError) := none
  listening : Bool := false
  settled : Bool := false
  outcome : Option (Except ThrownError TransportSession) := none
  closed : List ConnectedValue := []

/-- What happens to a call. -/
inductive ConnectInput where
  | client (outcome : Except ThrownError ConnectedValue)
  | abort (reason : Option ThrownError)
  | microtask

/-- `new TypeError("chrome-remote-interface returned an invalid client.")`. -/
def invalidClientError : ThrownError :=
  { head := ⟨.typeError, "chrome-remote-interface returned an invalid client."⟩ }

/-- `new TypeError("Selected target has no WebSocket debugger URL.")`. -/
def missingDebuggerUrlError : ThrownError :=
  { head := ⟨.typeError, "Selected target has no WebSocket debugger URL."⟩ }

/-- What the caller gets of a promise of a client that it still waits for. -/
def deliverClient (options : CdpTransportConnectOptions) :
    Except ThrownError ConnectedValue → Except ThrownError TransportSession
  | .ok client =>
    if isCriClient client then .ok (createSession client options) else .error invalidClientError
  | .error error => .error error

namespace ConnectCall

variable (options : CdpTransportConnectOptions)

/-- A reaction is added to the client's promise. -/
def subscribe (reaction : ClientReaction) (w : ConnectCall) : ConnectCall :=
  match w.clientPromise with
  | none => { w with reactions := w.reactions ++ [reaction] }
  | some _ => { w with microtasks := w.microtasks ++ [reaction] }

/-- `connect`, where the signal is aborted already if `aborted` is a reason. -/
def connect (aborted : Option (Option ThrownError)) : ConnectCall :=
  match options.target.webSocketDebuggerUrl with
  | none | some [] => { outcome := some (.error missingDebuggerUrlError) }
  | some url =>
    let w : ConnectCall := { requested := some ⟨options.host, options.port, url⟩ }
    if !options.signal then w.subscribe .continue
    else
      match aborted with
      | some reason =>
        { w.subscribe .closeLate with
          aborted := some reason
          outcome := some (.error (.ofCode .operationAborted)) }
      | none => { w with listening := true }.subscribe .deliver

/-- `onAbort`. -/
def onAbort (reason : Option ThrownError) (w : ConnectCall) : ConnectCall :=
  if w.settled then w
  else
    { w.subscribe .closeLate with
      settled := true
      outcome := some (.error (parentAbortError reason)) }

/-- One reaction to the settled promise. -/
def react (client : Except ThrownError ConnectedValue) (w : ConnectCall) :
    ClientReaction → ConnectCall
  | .continue => { w with outcome := some (deliverClient options client) }
  | .deliver =>
    if w.settled then w
    else
      { w with settled := true, listening := false, outcome := some (deliverClient options client) }
  | .closeLate =>
    match client with
    | .ok late => if isCriClient late then { w with closed := w.closed ++ [late] } else w
    | .error _ => w

/-- One input; `none` where it cannot occur. -/
def step (w : ConnectCall) : ConnectInput → Option ConnectCall
  | .client outcome =>
    match w.requested, w.clientPromise with
    | some _, none =>
      some { w with
        clientPromise := some outcome
        reactions := []
        microtasks := w.microtasks ++ w.reactions }
    | _, _ => none
  | .abort reason =>
    if !options.signal || w.aborted.isSome then some w
    else
      let w := { w with aborted := some reason }
      some (if w.listening then { w with listening := false }.onAbort reason else w)
  | .microtask =>
    match w.clientPromise, w.microtasks with
    | some client, reaction :: microtasks =>
      some ({ w with microtasks }.react options client reaction)
    | _, _ => none

end ConnectCall

/-! ## Whose client it is -/

/-- Whose the client of a call is. -/
structure Accountable (options : CdpTransportConnectOptions) (w : ConnectCall) : Prop where
  handed : ∀ session, w.outcome = some (.ok session) → w.closed = [] ∧
    ∃ client, w.clientPromise = some (.ok client) ∧ isCriClient client = true ∧
      session = createSession client options
  closed : w.closed ≠ [] → ∃ client reason error, w.clientPromise = some (.ok client) ∧
    isCriClient client = true ∧ w.closed = [client] ∧ w.aborted = some reason ∧
      w.outcome = some (.error error) ∧ error.isInstance .operationAborted = true
  owned : ∀ client, w.clientPromise = some (.ok client) → isCriClient client = true →
    w.microtasks = [] → w.outcome = some (.ok (createSession client options)) ∨ w.closed = [client]
  answered : w.clientPromise.isSome = true → w.microtasks = [] → w.outcome.isSome = true
  failed : ∀ error, w.outcome = some (.error error) →
    w.requested = none ∧ error = missingDebuggerUrlError ∨
      (∃ client, w.clientPromise = some client ∧ deliverClient options client = .error error) ∨
        ∃ reason, w.aborted = some reason ∧
          (error = .ofCode .operationAborted ∨ error = parentAbortError reason)
  unheard : w.outcome.isSome = true → w.listening = false
  few : w.microtasks.length ≤ 2

section Ownership

open ConnectCall

variable {options : CdpTransportConnectOptions} {w w' : ConnectCall}
  {reactions : List ClientReaction} {aborted : Option (Option ThrownError)} {input : ConnectInput}
  {reason : Option ThrownError}
  {outcome : Except ThrownError ConnectedValue}

/-- The reactions that are still to run. -/
def Pending (w : ConnectCall) (reactions : List ClientReaction) : Prop :=
  (w.clientPromise = none ∧ w.reactions = reactions ∧ w.microtasks = []) ∨
    ∃ client, w.clientPromise = some client ∧ w.reactions = [] ∧ w.microtasks = reactions

/-- The caller has been told of the abort. -/
def GivenUp (w : ConnectCall) : Prop :=
  w.listening = false ∧ ∃ reason, w.aborted = some reason ∧
    (w.outcome = some (.error (.ofCode .operationAborted)) ∨
      w.outcome = some (.error (parentAbortError reason)))

variable (options) in
/-- How far a call has come. -/
inductive Stage (w : ConnectCall) : Prop where
  | refused (hrequested : w.requested = none) (hpromise : w.clientPromise = none)
      (houtcome : w.outcome = some (.error missingDebuggerUrlError)) (hclosed : w.closed = [])
      (hlistening : w.listening = false) (hmicrotasks : w.microtasks = [])
  | waiting (hpending : Pending w [.continue]) (hrequested : w.requested ≠ none)
      (houtcome : w.outcome = none) (hclosed : w.closed = []) (hlistening : w.listening = false)
  | listening (hpending : Pending w [.deliver]) (hrequested : w.requested ≠ none)
      (houtcome : w.outcome = none) (hclosed : w.closed = []) (hsettled : w.settled = false)
      (hlistening : w.listening = true)
  | abandoned (hpending : Pending w [.deliver, .closeLate]) (hsettled : w.settled = true)
      (hgivenUp : GivenUp w) (hclosed : w.closed = [])
  | late (hpending : Pending w [.closeLate]) (hgivenUp : GivenUp w) (hclosed : w.closed = [])
  | delivered (client : Except ThrownError ConnectedValue)
      (hpromise : w.clientPromise = some client) (hmicrotasks : w.microtasks = [])
      (houtcome : w.outcome = some (deliverClient options client))
      (hclosed : w.closed = []) (hlistening : w.listening = false)
  | ended (client : Except ThrownError ConnectedValue) (hpromise : w.clientPromise = some client)
      (hmicrotasks : w.microtasks = []) (hgivenUp : GivenUp w)
      (hclosed : ∀ value, client = .ok value → isCriClient value = true → w.closed = [value])
      (hnone : (∀ value, client = .ok value → isCriClient value = false) → w.closed = [])

/-- A call starts at a stage: the client was not asked for, its caller waits for it, or the signal was
aborted before. -/
theorem stage_connect : Stage options (connect options aborted) := by
  rw [connect]
  split
  · exact .refused rfl rfl rfl rfl rfl rfl
  · exact .refused rfl rfl rfl rfl rfl rfl
  · cases options.signal with
    | false => exact .waiting (.inl ⟨rfl, rfl, rfl⟩) (Option.some_ne_none _) rfl rfl rfl
    | true =>
      cases aborted with
      | none => exact .listening (.inl ⟨rfl, rfl, rfl⟩) (Option.some_ne_none _) rfl rfl rfl rfl
      | some reason => exact .late (.inl ⟨rfl, rfl, rfl⟩) ⟨rfl, reason, rfl, .inl rfl⟩ rfl

/-! ### The client's promise settles -/

/-- The promise of the client settles once, and its reactions become microtasks. -/
theorem step_client (hstep : w.step options (.client outcome) = some w') :
    w.clientPromise = none ∧ w.requested ≠ none ∧ w' = { w with
      clientPromise := some outcome
      reactions := []
      microtasks := w.microtasks ++ w.reactions } := by
  rw [ConnectCall.step] at hstep
  split at hstep
  · next request hrequested hpromise =>
    cases hstep
    exact ⟨hpromise, by rw [hrequested]; exact Option.some_ne_none _, rfl⟩
  · cases hstep

/-- Settling the promise turns the reactions that wait into microtasks. -/
theorem Pending.client (h : Pending w reactions) (hnone : w.clientPromise = none)
    (outcome : Except ThrownError ConnectedValue) : Pending { w with
      clientPromise := some outcome
      reactions := []
      microtasks := w.microtasks ++ w.reactions } reactions := by
  rcases h with ⟨-, hreactions, hmicrotasks⟩ | ⟨client, hsome, -, -⟩
  · exact .inr ⟨outcome, rfl, rfl, by rw [hreactions, hmicrotasks, List.nil_append]⟩
  · rw [hnone] at hsome
    cases hsome

/-- Settling the promise keeps the stage. -/
theorem Stage.client (h : Stage options w) (hstep : w.step options (.client outcome) = some w') :
    Stage options w' := by
  obtain ⟨hnone, hasked, rfl⟩ := step_client hstep
  cases h with
  | refused hrequested => exact absurd hrequested hasked
  | waiting hpending hrequested houtcome hclosed hlistening =>
    exact .waiting (hpending.client hnone outcome) hrequested houtcome hclosed hlistening
  | listening hpending hrequested houtcome hclosed hsettled hlistening =>
    exact .listening (hpending.client hnone outcome) hrequested houtcome hclosed hsettled hlistening
  | abandoned hpending hsettled hgivenUp hclosed =>
    exact .abandoned (hpending.client hnone outcome) hsettled hgivenUp hclosed
  | late hpending hgivenUp hclosed => exact .late (hpending.client hnone outcome) hgivenUp hclosed
  | delivered client hpromise =>
    rw [hnone] at hpromise
    cases hpromise
  | ended client hpromise =>
    rw [hnone] at hpromise
    cases hpromise

/-! ### The signal aborts -/

/-- One more reaction is added behind those that are still to run. -/
theorem Pending.subscribe (h : Pending w reactions) (reaction : ClientReaction) :
    Pending (w.subscribe reaction) (reactions ++ [reaction]) := by
  rcases h with ⟨hpromise, hreactions, hmicrotasks⟩ | ⟨client, hpromise, hreactions, hmicrotasks⟩
  · rw [ConnectCall.subscribe, hpromise]
    exact .inl ⟨rfl, congrArg (· ++ [reaction]) hreactions, hmicrotasks⟩
  · rw [ConnectCall.subscribe, hpromise]
    exact .inr ⟨client, rfl, hreactions, congrArg (· ++ [reaction]) hmicrotasks⟩

/-- Adding a reaction leaves what the caller was told and what was closed as it is. -/
theorem subscribe_fields (reaction : ClientReaction) :
    (w.subscribe reaction).aborted = w.aborted ∧ (w.subscribe reaction).listening = w.listening ∧
      (w.subscribe reaction).closed = w.closed := by
  rw [ConnectCall.subscribe]
  split <;> exact ⟨rfl, rfl, rfl⟩

/-- An abort that nobody listens for. -/
theorem step_abort_unheard (hlistening : w.listening = false)
    (hstep : w.step options (.abort reason) = some w') :
    ∃ aborted, w' = { w with aborted } ∧ ∀ old, w.aborted = some old → aborted = some old := by
  rw [ConnectCall.step] at hstep
  split at hstep
  · cases hstep
    exact ⟨w.aborted, rfl, fun _ h => h⟩
  · next hheard =>
    cases hstep
    refine ⟨some reason, if_neg (ne_true_of_eq_false hlistening), fun old hold => ?_⟩
    rw [hold, Option.isSome_some, Bool.or_true] at hheard
    exact absurd rfl hheard

/-- Once the caller has been told of an abort, a later abort changes nothing for it. -/
theorem GivenUp.abort (h : GivenUp w) (hold : ∀ old, w.aborted = some old → aborted = some old) :
    GivenUp { w with aborted } := by
  obtain ⟨hlistening, reason, hreason, houtcome⟩ := h
  exact ⟨hlistening, reason, hold reason hreason, houtcome⟩

/-- An abort keeps the stage: the caller is told at once, and the client is closed when it comes. -/
theorem Stage.abort (h : Stage options w) (hstep : w.step options (.abort reason) = some w') :
    Stage options w' := by
  cases h with
  | refused hrequested hpromise houtcome hclosed hlistening hmicrotasks =>
    obtain ⟨aborted, rfl, -⟩ := step_abort_unheard hlistening hstep
    exact .refused hrequested hpromise houtcome hclosed hlistening hmicrotasks
  | waiting hpending hrequested houtcome hclosed hlistening =>
    obtain ⟨aborted, rfl, -⟩ := step_abort_unheard hlistening hstep
    exact .waiting hpending hrequested houtcome hclosed hlistening
  | listening hpending hrequested houtcome hclosed hsettled hlistening =>
    rw [ConnectCall.step] at hstep
    split at hstep
    · cases hstep
      exact .listening hpending hrequested houtcome hclosed hsettled hlistening
    · cases hstep
      -- The listener gives the caller up and subscribes to the client, to close it when it comes.
      let v : ConnectCall := { w with aborted := some reason, listening := false }
      have hgiven : onAbort reason v = { v.subscribe .closeLate with
          settled := true, outcome := some (.error (parentAbortError reason)) } := by
        rw [onAbort, if_neg (ne_true_of_eq_false hsettled)]
      obtain ⟨haborted, hunheard, hkept⟩ := @subscribe_fields v .closeLate
      have hv : Pending v [.deliver] := hpending
      show Stage options (if w.listening then onAbort reason v else _)
      rw [if_pos hlistening, hgiven]
      exact .abandoned (hv.subscribe .closeLate) rfl ⟨hunheard, reason, haborted, .inr rfl⟩
        (hkept.trans hclosed)
  | abandoned hpending hsettled hgivenUp hclosed =>
    obtain ⟨aborted, rfl, hold⟩ := step_abort_unheard hgivenUp.1 hstep
    exact .abandoned hpending hsettled (hgivenUp.abort hold) hclosed
  | late hpending hgivenUp hclosed =>
    obtain ⟨aborted, rfl, hold⟩ := step_abort_unheard hgivenUp.1 hstep
    exact .late hpending (hgivenUp.abort hold) hclosed
  | delivered client hpromise hmicrotasks houtcome hclosed hlistening =>
    obtain ⟨aborted, rfl, -⟩ := step_abort_unheard hlistening hstep
    exact .delivered client hpromise hmicrotasks houtcome hclosed hlistening
  | ended client hpromise hmicrotasks hgivenUp hclosed hnone =>
    obtain ⟨aborted, rfl, hold⟩ := step_abort_unheard hgivenUp.1 hstep
    exact .ended client hpromise hmicrotasks (hgivenUp.abort hold) hclosed hnone

/-! ### A microtask runs -/

/-- A microtask is the first reaction of the queue, run on the settled client. -/
theorem step_microtask (hstep : w.step options .microtask = some w') :
    ∃ client reaction microtasks, w.clientPromise = some client ∧
      w.microtasks = reaction :: microtasks ∧
        w' = { w with microtasks }.react options client reaction := by
  rw [ConnectCall.step] at hstep
  split at hstep
  · next client reaction microtasks hpromise hmicrotasks =>
    cases hstep
    exact ⟨client, reaction, microtasks, hpromise, hmicrotasks, rfl⟩
  · cases hstep

/-- The reaction that runs is the first one that is pending. -/
theorem Pending.microtask {reaction : ClientReaction} (h : Pending w (reaction :: reactions))
    (hstep : w.step options .microtask = some w') : ∃ client, w.clientPromise = some client ∧
      w' = { w with microtasks := reactions }.react options client reaction ∧
        Pending { w with microtasks := reactions } reactions := by
  obtain ⟨client, first, microtasks, hpromise, hmicrotasks, rfl⟩ := step_microtask hstep
  rcases h with ⟨hnone, -, -⟩ | ⟨client', hpromise', hreactions, hmicrotasks'⟩
  · rw [hnone] at hpromise
    cases hpromise
  · rw [hmicrotasks'] at hmicrotasks
    cases hmicrotasks
    exact ⟨client, hpromise, rfl, .inr ⟨client, hpromise, hreactions, rfl⟩⟩

/-- No microtask runs when there is none. -/
theorem not_microtask (hmicrotasks : w.microtasks = []) : w.step options .microtask ≠ some w' := by
  intro hstep
  obtain ⟨_, _, _, -, hcons, -⟩ := step_microtask hstep
  rw [hmicrotasks] at hcons
  cases hcons

/-- A microtask keeps the stage. -/
theorem Stage.microtask (h : Stage options w) (hstep : w.step options .microtask = some w') :
    Stage options w' := by
  cases h with
  | refused hrequested hpromise =>
    obtain ⟨client, _, _, hsome, -, -⟩ := step_microtask hstep
    rw [hpromise] at hsome
    cases hsome
  | waiting hpending hrequested houtcome hclosed hlistening =>
    obtain ⟨client, hpromise, rfl, -⟩ := hpending.microtask hstep
    exact .delivered client hpromise rfl rfl hclosed hlistening
  | listening hpending hrequested houtcome hclosed hsettled hlistening =>
    obtain ⟨client, hpromise, rfl, -⟩ := hpending.microtask hstep
    rw [react, if_neg (ne_true_of_eq_false hsettled)]
    exact .delivered client hpromise rfl rfl hclosed rfl
  | abandoned hpending hsettled hgivenUp hclosed =>
    -- The subscription of `connect` comes first, and it finds the call settled.
    obtain ⟨client, hpromise, rfl, hrest⟩ := hpending.microtask hstep
    rw [react, if_pos hsettled]
    exact .late hrest hgivenUp hclosed
  | late hpending hgivenUp hclosed =>
    obtain ⟨client, hpromise, rfl, hrest⟩ := hpending.microtask hstep
    cases client with
    | error error =>
      exact .ended (.error error) hpromise rfl hgivenUp (by rintro value ⟨⟩) fun _ => hclosed
    | ok value =>
      rw [react]
      -- A late value that is no client is not closed.
      cases hvalid : isCriClient value with
      | true =>
        refine .ended (.ok value) hpromise rfl hgivenUp ?_ fun hnot => ?_
        · rintro _ ⟨⟩ -
          exact congrArg (· ++ [value]) hclosed
        · rw [hnot value rfl] at hvalid
          cases hvalid
      | false =>
        refine .ended (.ok value) hpromise rfl hgivenUp ?_ fun _ => hclosed
        rintro _ ⟨⟩ hyes
        rw [hvalid] at hyes
        cases hyes
  | delivered client hpromise hmicrotasks houtcome hclosed hlistening =>
    exact absurd hstep (not_microtask hmicrotasks)
  | ended client hpromise hmicrotasks hgivenUp hclosed hnone =>
    exact absurd hstep (not_microtask hmicrotasks)

/-- The step lemma. -/
theorem Stage.step (h : Stage options w) (hstep : w.step options input = some w') :
    Stage options w' := by
  cases input with
  | client outcome => exact h.client hstep
  | abort reason => exact h.abort hstep
  | microtask => exact h.microtask hstep

/-! ### What every stage says -/

/-- No more microtasks are queued than there are reactions to run. -/
theorem Pending.few (h : Pending w reactions) : w.microtasks.length ≤ reactions.length := by
  rcases h with ⟨-, -, hmicrotasks⟩ | ⟨client, -, -, hmicrotasks⟩
  · rw [hmicrotasks]
    exact Nat.zero_le _
  · rw [hmicrotasks]

/-- A reaction that is still to run has its microtask queued once the promise has settled. -/
theorem Pending.not_quiet {reaction : ClientReaction} (h : Pending w (reaction :: reactions))
    (hsome : w.clientPromise ≠ none) : w.microtasks ≠ [] := by
  rcases h with ⟨hnone, -, -⟩ | ⟨client, -, -, hmicrotasks⟩
  · exact absurd hnone hsome
  · rw [hmicrotasks]
    exact List.cons_ne_nil _ _

/-- A call that waits owes nothing yet. -/
theorem accountable_waiting {reaction : ClientReaction} (hpending : Pending w [reaction])
    (houtcome : w.outcome = none) (hclosed : w.closed = []) : Accountable options w where
  handed session hsession := by
    rw [houtcome] at hsession
    cases hsession
  closed hne := absurd hclosed hne
  owned client hpromise _ hquiet :=
    absurd hquiet (hpending.not_quiet (by rw [hpromise]; exact Option.some_ne_none _))
  answered hsome hquiet :=
    absurd hquiet (hpending.not_quiet (Option.isSome_iff_ne_none.mp hsome))
  failed error herror := by
    rw [houtcome] at herror
    cases herror
  unheard hsome := by
    rw [houtcome] at hsome
    cases hsome
  few := hpending.few.trans (Nat.le_succ 1)

/-- The caller that gave up got an abort error: the plain one, or the one of the given reason. -/
theorem GivenUp.failed (h : GivenUp w) : ∃ reason error, w.aborted = some reason ∧
    w.outcome = some (.error error) ∧ error.isInstance .operationAborted = true ∧
      (error = .ofCode .operationAborted ∨ error = parentAbortError reason) := by
  obtain ⟨-, reason, hreason, houtcome⟩ := h
  rcases houtcome with houtcome | houtcome
  · exact ⟨reason, _, hreason, houtcome, by simp, .inl rfl⟩
  · exact ⟨reason, _, hreason, houtcome, by simp [parentAbortError], .inr rfl⟩

/-- A call that has been given up owes the client that still arrives a close. -/
theorem accountable_givenUp (hgivenUp : GivenUp w)
    (hclosed : w.closed ≠ [] → ∃ client, w.clientPromise = some (.ok client) ∧
      isCriClient client = true ∧ w.closed = [client])
    (howned : ∀ client, w.clientPromise = some (.ok client) → isCriClient client = true →
      w.microtasks = [] → w.closed = [client]) (hfew : w.microtasks.length ≤ 2) :
    Accountable options w := by
  obtain ⟨reason, error, hreason, houtcome, hinstance, herror⟩ := hgivenUp.failed
  refine ⟨fun session hsession => ?_, fun hne => ?_, fun client hpromise hvalid hquiet => ?_,
    fun _ _ => ?_, fun error' herror' => ?_, fun _ => hgivenUp.1, hfew⟩
  · rw [houtcome] at hsession
    cases hsession
  · obtain ⟨client, hpromise, hvalid, hone⟩ := hclosed hne
    exact ⟨client, reason, error, hpromise, hvalid, hone, hreason, houtcome, hinstance⟩
  · exact .inr (howned client hpromise hvalid hquiet)
  · rw [houtcome]
    rfl
  · rw [houtcome] at herror'
    cases herror'
    exact .inr (.inr ⟨reason, hreason, herror⟩)

/-- The caller gets a session only of a value that is a client. -/
theorem deliverClient_eq_ok {client : Except ThrownError ConnectedValue}
    {session : TransportSession} (h : deliverClient options client = .ok session) :
    ∃ value, client = .ok value ∧ isCriClient value = true ∧
      session = createSession value options := by
  cases client with
  | error error => cases h
  | ok value =>
    rw [deliverClient] at h
    split at h
    · next hvalid =>
      cases h
      exact ⟨value, rfl, hvalid, rfl⟩
    · cases h

/-- At each stage the client is accounted for. -/
theorem Stage.accountable (h : Stage options w) : Accountable options w := by
  cases h with
  | refused hrequested hpromise houtcome hclosed hlistening hmicrotasks =>
    refine ⟨fun session hsession => ?_, absurd hclosed, fun client hsome => ?_, fun hsome => ?_,
      fun error herror => ?_, fun _ => hlistening, ?_⟩
    · rw [houtcome] at hsession
      cases hsession
    · rw [hpromise] at hsome
      cases hsome
    · rw [hpromise] at hsome
      cases hsome
    · rw [houtcome] at herror
      cases herror
      exact .inl ⟨hrequested, rfl⟩
    · rw [hmicrotasks]
      exact Nat.zero_le _
  | waiting hpending hrequested houtcome hclosed hlistening =>
    exact accountable_waiting hpending houtcome hclosed
  | listening hpending hrequested houtcome hclosed hsettled hlistening =>
    exact accountable_waiting hpending houtcome hclosed
  | abandoned hpending hsettled hgivenUp hclosed =>
    refine accountable_givenUp hgivenUp (absurd hclosed) (fun client hpromise _ hquiet => ?_)
      hpending.few
    exact absurd hquiet (hpending.not_quiet (by rw [hpromise]; exact Option.some_ne_none _))
  | late hpending hgivenUp hclosed =>
    refine accountable_givenUp hgivenUp (absurd hclosed) (fun client hpromise _ hquiet => ?_)
      (hpending.few.trans (Nat.le_succ 1))
    exact absurd hquiet (hpending.not_quiet (by rw [hpromise]; exact Option.some_ne_none _))
  | delivered client hpromise hmicrotasks houtcome hclosed hlistening =>
    refine ⟨fun session hsession => ⟨hclosed, ?_⟩, absurd hclosed, fun value hvalue hvalid _ => ?_,
      fun _ _ => ?_, fun error herror => ?_, fun _ => hlistening, ?_⟩
    · rw [houtcome] at hsession
      obtain ⟨value, rfl, hvalid, rfl⟩ := deliverClient_eq_ok (Option.some.inj hsession)
      exact ⟨value, hpromise, hvalid, rfl⟩
    · rw [hpromise] at hvalue
      cases hvalue
      exact .inl (houtcome.trans (by rw [deliverClient, if_pos hvalid]))
    · rw [houtcome]
      rfl
    · rw [houtcome] at herror
      exact .inr (.inl ⟨client, hpromise, Option.some.inj herror⟩)
    · rw [hmicrotasks]
      exact Nat.zero_le _
  | ended client hpromise hmicrotasks hgivenUp hclosed hnone =>
    refine accountable_givenUp hgivenUp (fun hne => ?_) (fun value hvalue hvalid _ => ?_) ?_
    -- If anything was closed, the client came and was valid.
    · by_contra hnot
      refine hne (hnone fun value hvalue => ?_)
      by_contra hvalid
      have hvalid := eq_true_of_ne_false hvalid
      exact hnot ⟨value, hvalue ▸ hpromise, hvalid, hclosed value hvalue hvalid⟩
    · rw [hpromise] at hvalue
      exact hclosed value (Option.some.inj hvalue) hvalid
    · rw [hmicrotasks]
      exact Nat.zero_le _

/-- A client that arrives is handed over in one session, or closed once after the caller has been
told of an abort; a call that has been answered has no listener left. -/
theorem client_accountable (options : CdpTransportConnectOptions)
    (aborted : Option (Option ThrownError)) (inputs : List ConnectInput) (t : ConnectCall)
    (hrun : Machine.exec (ConnectCall.step options) (ConnectCall.connect options aborted) inputs =
      some t) : Accountable options t :=
  (Machine.exec_invariant (fun _ _ _ h hstep => h.step hstep) stage_connect hrun).accountable

/-- The signal aborts after the client has arrived and before it is delivered. -/
theorem client_accountable_abort :
    let target : CdpTargetInfo :=
      ⟨Text.of "page", [], Text.of "page", [], some (Text.of "ws://127.0.0.1:9223/"), []⟩
    let options : CdpTransportConnectOptions := ⟨"127.0.0.1", 9223, target, true, true⟩
    let client : ConnectedValue := ⟨7, criClientFunctions⟩
    ∃ t, Machine.exec (ConnectCall.step options) (ConnectCall.connect options none)
        [.client (.ok client), .abort none, .microtask, .microtask] = some t ∧
      t.closed = [client] ∧ Accountable options t := by
  intro target options client
  exact ⟨_, rfl, rfl, client_accountable options none
    [.client (.ok client), .abort none, .microtask, .microtask] _ rfl⟩

end Ownership

end Threadwire
