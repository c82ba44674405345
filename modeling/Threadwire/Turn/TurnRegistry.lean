import Threadwire.Routing.RegistryInvariant
import Threadwire.Turn.TurnFrame

/-!
# What a turn does to the registry

However a turn ends, or hangs, it has kept the registry consistent and taken no committed handle
from its locator, and the handles that it has added are ones that its handle factories made. Only a
turn of a project leaves a completion pending.
-/

namespace Threadwire

namespace ThreadRegistry

/-- From the first registry to the second it stays consistent, no committed handle is lost, and the
handles that are new are `drawn`. -/
structure Evolves (drawn : ThreadHandle → Prop) (r r' : ThreadRegistry) : Prop where
  consistent : Consistent r → Consistent r'
  committed : Consistent r → ∀ handle locator,
    r.committedHandleToLocator.get? handle = some locator →
      r'.committedHandleToLocator.get? handle = some locator
  drawn : ∀ handle, handleExists r'.toRegistryMaps handle = true →
    handleExists r.toRegistryMaps handle = true ∨ drawn handle

variable {drawn : ThreadHandle → Prop} {r r' r'' : ThreadRegistry} {handle : ThreadHandle}
  {locator : ConversationLocator}

/-- A registry has evolved from itself. -/
theorem Evolves.refl (r : ThreadRegistry) : Evolves drawn r r :=
  ⟨id, fun _ _ _ h => h, fun _ h => .inl h⟩

/-- In two steps. -/
theorem Evolves.trans (h : Evolves drawn r r') (h' : Evolves drawn r' r'') :
    Evolves drawn r r'' where
  consistent hr := h'.consistent (h.consistent hr)
  committed hr handle locator hc :=
    h'.committed (h.consistent hr) handle locator (h.committed hr handle locator hc)
  drawn handle hhandle := (h'.drawn handle hhandle).elim (h.drawn handle) .inr

/-- A new conversation is registered under an unused handle. -/
theorem evolves_registered (hfree : r.locatorToHandle.get? locator = none)
    (hunused : handleExists r.toRegistryMaps handle = false) (hdrawn : drawn handle) :
    Evolves drawn r (r.registered locator handle) where
  consistent hr := hr.registered hfree hunused
  committed _ _ _ hc := committed_registered hunused hc
  drawn handle' h := by
    simp only [registered, handleExists] at h ⊢
    grind

/-- Or reserved under one. -/
theorem evolves_reserved (hfree : r.locatorToHandle.get? locator = none)
    (hunused : handleExists r.toRegistryMaps handle = false) (hdrawn : drawn handle) :
    Evolves drawn r (r.reserved locator handle) where
  consistent hr := hr.reserved hfree hunused
  committed _ _ _ hc := hc
  drawn handle' h := by
    simp only [reserved, handleExists] at h ⊢
    grind

/-- A reservation is taken back, and nothing else. -/
theorem evolves_rolledBack {transaction : ProvisionalThreadRegistrationToken}
    {entry : ProvisionalThreadEntry} (hopen : Pending r transaction handle entry) :
    Evolves drawn r (r.rolledBack handle entry) where
  consistent hr := hr.rolledBack hopen
  committed _ _ _ hc := hc
  drawn handle' h := by
    simp only [rolledBack, handleExists] at h ⊢
    grind

end ThreadRegistry

namespace TurnExecutor

open Effect
open ThreadRegistry (Evolves Draws)

/-- The handle is one that a handle factory of the turn made. -/
def DrawnBy (c : TurnCall) (handle : ThreadHandle) : Prop :=
  ∃ question, Draws (c.environment.handleFactory question) handle

/-- What a turn has done to the registry, which was this one when it began. -/
structure Registers (c : TurnCall) (registry : ThreadRegistry) (run : TurnRun) : Prop where
  evolves : Evolves (DrawnBy c) registry run.registry
  unreserved : isProject c = false → run.projectRegistration = none ∧
    run.pendingProjectCompletion = none

/-- A part of a turn that does no more than that, however it ends. -/
abbrev KeepsRegistry (c : TurnCall) (registry : ThreadRegistry) {α : Type} (x : TurnM α) : Prop :=
  Maintains (Registers c registry) (fun _ => Registers c registry) x

variable {c : TurnCall} {registry : ThreadRegistry} {α : Type}

/-- A turn begins with the registry as it is. -/
theorem registers_start : Registers c registry { registry } :=
  ⟨.refl registry, fun _ => ⟨rfl, rfl⟩⟩

/-- What does not touch the registry. -/
theorem keepsRegistry_of_untouched {x : TurnM α} (hx : Within Untouched x) :
    KeepsRegistry c registry x := by
  have hkeeps : ∀ run run', Registers c registry run → Untouched run run' →
      Registers c registry run' := fun run run' h hrun => by
    refine ⟨hrun.registry ▸ h.evolves, fun hproject => ?_⟩
    rw [hrun.projectRegistration, hrun.pendingProjectCompletion]
    exact h.unreserved hproject
  exact fun run h => wp_mono (hx run) (fun _ run' hrun => hkeeps run run' h hrun)
    fun _ run' hrun => hkeeps run run' h hrun

/-- An attempt keeps to what its computation keeps to. -/
theorem keepsRegistry_attempt {x : TurnM α} (hx : KeepsRegistry c registry x) :
    KeepsRegistry c registry (attempt x) :=
  hx.attempt fun _ h => h

/-! ## The calls of the registry -/

/-- A call of the registry. -/
theorem keepsRegistry_onRegistry {method : RegistryM α}
    (hmethod : ∀ r, Effect.wp method (fun _ r' => Evolves (DrawnBy c) r r')
      (fun _ r' => Evolves (DrawnBy c) r r') r) : KeepsRegistry c registry (onRegistry method) := by
  intro run h
  rw [wp_onRegistry]
  exact wp_mono (hmethod run.registry) (fun _ r' hr' => ⟨h.evolves.trans hr', h.unreserved⟩)
    fun _ r' hr' => ⟨h.evolves.trans hr', h.unreserved⟩

/-- A record is not about the registry. -/
theorem keepsRegistry_record (action : TurnAction) : KeepsRegistry c registry (record action) :=
  fun _ h => ⟨h.evolves, h.unreserved⟩

/-- A conversation is registered at most once. -/
theorem keepsRegistry_registerWithStatus (locator : ConversationLocator) :
    KeepsRegistry c registry (registerWithStatus c locator) := by
  intro run h
  rw [registerWithStatus, wp_bind, wp_ask]
  refine Maintains.bind (keepsRegistry_onRegistry fun r => ?_) (fun result =>
    (keepsRegistry_record _).bind fun _ => maintains_pure result) _ ⟨h.evolves, h.unreserved⟩
  exact ThreadRegistry.wp_registerWithStatus (fun _ => .refl r) (fun _ _ _ _ _ => .refl r)
    fun _ _ _ hfree hunused hdraws =>
      ThreadRegistry.evolves_registered hfree hunused ⟨run.asked, hdraws⟩

/-- A conversation is reserved at most once. -/
theorem keepsRegistry_reserveProvisionalWithStatus (locator : ConversationLocator) :
    KeepsRegistry c registry (reserveProvisionalWithStatus c locator) := by
  intro run h
  rw [reserveProvisionalWithStatus, wp_bind, wp_ask]
  refine Maintains.bind (keepsRegistry_onRegistry fun r => ?_) (fun result =>
    (keepsRegistry_record _).bind fun _ => maintains_pure result) _ ⟨h.evolves, h.unreserved⟩
  exact ThreadRegistry.wp_reserveProvisionalWithStatus (fun _ => .refl r) (fun _ _ _ _ => .refl r)
    fun _ _ _ hfree hunused hdraws =>
      ThreadRegistry.evolves_reserved hfree hunused ⟨run.asked, hdraws⟩

/-- Only the turn's own reservation is rolled back. -/
theorem keepsRegistry_rollbackReservation : KeepsRegistry c registry rollbackReservation := by
  refine maintains_get.bind fun run => ?_
  cases run.projectRegistration.bind (·.transaction) with
  | none => exact maintains_pure ()
  | some transaction =>
    refine Maintains.bind (keepsRegistry_onRegistry fun r => ?_) fun _ => keepsRegistry_record _
    exact ThreadRegistry.wp_settleProvisional (fun _ => .refl r)
      fun _ _ hopen => ThreadRegistry.evolves_rolledBack hopen

/-- A project's conversation is registered by the same method. -/
theorem keepsRegistry_registerProjectConversation (locator : ConversationLocator) :
    KeepsRegistry c registry (registerProjectConversation c locator) := by
  refine (keepsRegistry_attempt (keepsRegistry_registerWithStatus locator)).bind
    fun registration => ?_
  rcases registration with error | registration
  · exact keepsRegistry_of_untouched (untouched_failClosed error)
  · exact .ite (fun _ => keepsRegistry_of_untouched (untouched_failClosed _))
      fun _ => maintains_pure registration

/-! ## The end of a turn -/

/-- Only a turn of a project reserves. -/
theorem keepsRegistry_beforeCompleted (locator : ConversationLocator) :
    KeepsRegistry c registry (beforeCompleted c locator) := by
  refine .onlyIf fun hproject => (keepsRegistry_of_untouched untouched_isAborted).bind fun _ => ?_
  refine Maintains.bind (.onlyIf fun _ => keepsRegistry_of_untouched (untouched_failClosed _))
    fun _ => ?_
  refine (keepsRegistry_attempt (keepsRegistry_reserveProvisionalWithStatus locator)).bind
    fun registration => ?_
  rcases registration with error | registration
  · exact keepsRegistry_of_untouched (untouched_failClosed error)
  · refine .ite (fun _ => keepsRegistry_of_untouched (untouched_failClosed _)) fun _ =>
      maintains_modify fun run h => ⟨h.evolves, fun hnot => ?_⟩
    rw [hproject] at hnot
    cases hnot

/-- The announcement of the end is not about the registry. -/
theorem keepsRegistry_announceCompleted : KeepsRegistry c registry (announceCompleted c) :=
  (keepsRegistry_of_untouched (untouched_announce _)).bind fun accepted =>
    Maintains.bind (.onlyIf fun _ => maintains_modify fun _ h => ⟨h.evolves, h.unreserved⟩)
      fun _ => maintains_pure accepted

/-- So is the end of the delivery, but for what comes before the end. -/
theorem keepsRegistry_finalizeResponseDelivery {before : TurnM Unit}
    (hbefore : KeepsRegistry c registry before) :
    KeepsRegistry c registry (finalizeResponseDelivery c before) := by
  refine (keepsRegistry_of_untouched untouched_readResponse).bind fun state => ?_
  cases state with
  | none => exact maintains_pure false
  | some state =>
    refine .ite (fun _ => maintains_pure true) fun _ => .ite (fun _ => maintains_pure false)
      fun _ => .ite (fun _ => ?_) fun _ => ?_
    · exact (keepsRegistry_of_untouched (untouched_recordTerminalError _)).bind
        fun _ => maintains_pure false
    refine (keepsRegistry_of_untouched (untouched_announceDeferred state)).bind fun deferred =>
      .ite (fun _ => maintains_pure false) fun _ => ?_
    refine (keepsRegistry_of_untouched (untouched_announce _)).bind fun final =>
      .ite (fun _ => maintains_pure false) fun _ => ?_
    exact hbefore.bind fun _ => keepsRegistry_announceCompleted

/-- The response is read. -/
theorem keepsRegistry_responseError : KeepsRegistry c registry responseError :=
  keepsRegistry_of_untouched untouched_responseError

/-- An error is thrown on, or the lease marked. -/
theorem keepsRegistry_throwOrFailClosed (error : ThrownError) :
    KeepsRegistry c registry (throwOrFailClosed c error : TurnM α) :=
  keepsRegistry_of_untouched (untouched_throwOrFailClosed error)

/-- A reservation is found at the end only in a turn of a project. -/
theorem keepsRegistry_finishStreaming (state : PollState) (locator : ConversationLocator)
    (freshRegistration : Option ThreadRegistrationResult) :
    KeepsRegistry c registry (finishStreaming c state locator freshRegistration) := by
  refine Maintains.bind (maintains_modify fun run h => ⟨h.evolves, fun hnot =>
    ⟨rfl, (h.unreserved hnot).2⟩⟩) fun _ => ?_
  refine (keepsRegistry_finalizeResponseDelivery (keepsRegistry_beforeCompleted locator)).bind
    fun finalized => keepsRegistry_responseError.bind fun error => ?_
  cases error with
  | some error =>
    exact keepsRegistry_rollbackReservation.bind fun _ => keepsRegistry_throwOrFailClosed error
  | none =>
    refine .ite (fun _ => maintains_pure _) fun _ => ?_
    intro run h
    rw [wp_bind, wp_get]
    cases hregistration : run.projectRegistration with
    | some registration =>
      dsimp only
      cases registration.transaction with
      | none => exact keepsRegistry_of_untouched (untouched_failClosed _) run h
      | some transaction =>
        refine ⟨h.evolves, fun hnot => ?_⟩
        have hnone := (h.unreserved hnot).1
        rw [hregistration] at hnone
        cases hnone
    | none =>
      cases freshRegistration with
      | some registration => exact h
      | none =>
        exact (keepsRegistry_registerProjectConversation locator).bind
          (fun _ => maintains_pure _) run h

/-- The end of a turn without a listener registers a project's conversation, or nothing. -/
theorem keepsRegistry_finishPlain (locator : ConversationLocator)
    (freshRegistration : Option ThreadRegistrationResult) :
    KeepsRegistry c registry (finishPlain c locator freshRegistration) := by
  refine (keepsRegistry_of_untouched untouched_isAborted).bind fun _ => Maintains.bind
    (.onlyIf fun _ => keepsRegistry_of_untouched (untouched_failClosed _)) fun _ => ?_
  cases freshRegistration with
  | some registration => exact maintains_pure _
  | none =>
    exact (keepsRegistry_registerProjectConversation locator).bind fun _ => maintains_pure _

/-- A new conversation is registered, or refused. -/
theorem keepsRegistry_registerFresh (locator : ConversationLocator) :
    KeepsRegistry c registry (registerFresh c locator) := by
  refine .ite (fun _ => maintains_get.bind fun run => ?_) fun _ =>
    (keepsRegistry_registerWithStatus locator).bind fun _ => maintains_pure _
  rcases run.registry.hasLocator c.parseUrl locator with error | _ | _ <;> dsimp only
  · exact keepsRegistry_of_untouched (within_fail error)
  · exact maintains_pure none
  · exact keepsRegistry_of_untouched (untouched_failClosed _)

/-- The end of a turn with a new conversation. -/
theorem keepsRegistry_finishFresh (state : PollState) (locator : ConversationLocator) :
    KeepsRegistry c registry (finishFresh c state locator) := by
  refine (keepsRegistry_of_untouched untouched_readResponse).bind fun response => ?_
  cases response with
  | none =>
    exact (keepsRegistry_registerFresh locator).bind fun registration =>
      keepsRegistry_finishPlain locator registration
  | some response =>
    refine .ite (fun _ => maintains_pure _) fun _ =>
      (keepsRegistry_registerFresh locator).bind fun registration => ?_
    cases response.terminalError with
    | some error => exact keepsRegistry_throwOrFailClosed error
    | none => exact keepsRegistry_finishStreaming state locator registration

/-- The end of a turn in a known conversation registers nothing. -/
theorem keepsRegistry_finishThread (state : PollState) (threadHandle : ThreadHandle) :
    KeepsRegistry c registry (finishThread c state threadHandle) := by
  refine (keepsRegistry_of_untouched untouched_isAborted).bind fun _ =>
    .ite (fun _ => keepsRegistry_of_untouched (within_fail _)) fun _ =>
      (keepsRegistry_of_untouched untouched_readResponse).bind fun response => ?_
  cases response with
  | none => exact maintains_pure _
  | some response =>
    dsimp only
    cases response.terminalError with
    | some error => exact keepsRegistry_of_untouched (within_fail error)
    | none =>
      refine .ite (fun _ => maintains_pure _) fun _ =>
        (keepsRegistry_finalizeResponseDelivery (maintains_pure ())).bind fun finalized =>
          keepsRegistry_responseError.bind fun error => ?_
      cases error with
      | some error => exact keepsRegistry_of_untouched (within_fail error)
      | none => exact .ite (fun _ => maintains_pure _) fun _ => maintains_pure _

/-! ## The polls -/

/-- Reading the route registers nothing. -/
theorem keepsRegistry_readRoute (message : String) :
    KeepsRegistry c registry (readRoute c message) :=
  (keepsRegistry_of_untouched (untouched_withTimeout _ _ _ _)).bind fun locator =>
    (keepsRegistry_record _).bind fun _ => maintains_pure locator

/-- Nor does the first look at it. -/
theorem keepsRegistry_readFreshRoute (state : PollState) (write : CdpWriteLifecycleState) :
    KeepsRegistry c registry (readFreshRoute c state write) := by
  refine (keepsRegistry_attempt (keepsRegistry_readRoute _)).bind fun read => ?_
  rcases read with error | _ | locator
  · exact keepsRegistry_of_untouched (untouched_freshRouteFailed state write error)
  · exact maintains_pure _
  · rcases hown : ownsConversation c locator with error | _ | _ <;> simp only [hown]
    · exact keepsRegistry_of_untouched (untouched_freshRouteFailed _ write error)
    · exact maintains_pure _
    · exact maintains_pure _

/-- Nor the second one. -/
theorem keepsRegistry_readCurrentRoute (state : PollState) (freshLocator : ConversationLocator) :
    KeepsRegistry c registry (readCurrentRoute c state freshLocator) := by
  refine (keepsRegistry_attempt (keepsRegistry_readRoute _)).bind fun read => ?_
  rcases read with error | _ | current
  · exact keepsRegistry_of_untouched (untouched_currentRouteFailed state none error)
  · exact maintains_pure _
  · rcases hown : ownsConversation c current with error | owned <;> simp only [hown]
    · exact keepsRegistry_of_untouched (untouched_currentRouteFailed state (some current) error)
    · exact .ite (fun _ => maintains_pure _) fun _ => maintains_pure _

/-- A read of the observation and what follows from it for the response. -/
theorem keepsRegistry_observe {β : Type} {cancelled : Bool → Bool}
    {f : CdpTurnObservationSnapshot → TurnM β}
    (hf : ∀ snapshot, KeepsRegistry c registry (f snapshot)) :
    KeepsRegistry c registry (do
      let snapshot ← readTurnObservation c
      let aborted ← isAborted c
      updateResponseDelivery c snapshot (cancelled aborted)
      f snapshot) :=
  (keepsRegistry_of_untouched untouched_readTurnObservation).bind fun snapshot =>
    (keepsRegistry_of_untouched untouched_isAborted).bind fun _ =>
      (keepsRegistry_of_untouched (untouched_updateResponseDelivery snapshot _)).bind
        fun _ => hf snapshot

/-- Nor the error that there is none. -/
theorem keepsRegistry_throwConversationNotCreated (cause : Option ThrownError) :
    KeepsRegistry c registry (throwConversationNotCreated c cause) :=
  keepsRegistry_of_untouched (untouched_throwConversationNotCreated cause)

/-- The route is read again before anything is registered. -/
theorem keepsRegistry_revalidate (state : PollState) (freshLocator : ConversationLocator) :
    KeepsRegistry c registry (revalidate c state freshLocator) := by
  refine (keepsRegistry_readCurrentRoute state freshLocator).bind fun route =>
    keepsRegistry_observe fun snapshot => ?_
  rcases snapshot.write with _ | _ | _ | _
  · exact keepsRegistry_of_untouched (untouched_failClosed _)
  · exact keepsRegistry_of_untouched (untouched_failClosed _)
  · refine (keepsRegistry_of_untouched untouched_isAborted).bind fun _ =>
      .ite (fun _ => keepsRegistry_throwOrFailClosed _) fun _ => ?_
    rcases route with ⟨_ | locator, state⟩
    · exact (keepsRegistry_of_untouched (untouched_ask _)).bind fun now =>
        .ite (fun _ => keepsRegistry_throwConversationNotCreated _) fun _ => maintains_pure _
    · exact keepsRegistry_finishFresh state locator
  · exact keepsRegistry_throwOrFailClosed _

/-- A write that is over. -/
theorem keepsRegistry_settle (state : PollState) (write : CdpWriteLifecycleState) (now : Rat) :
    KeepsRegistry c registry (settle c state write now) := by
  refine (keepsRegistry_of_untouched untouched_isAborted).bind fun aborted =>
    (keepsRegistry_record _).bind fun _ => .ite (fun _ => keepsRegistry_throwOrFailClosed _)
      fun _ => ?_
  cases state.freshLocator with
  | some freshLocator => exact keepsRegistry_revalidate _ freshLocator
  | none =>
    exact .ite (fun _ => keepsRegistry_throwConversationNotCreated _) fun _ => maintains_pure _

/-- A write that is still active registers nothing. -/
theorem keepsRegistry_settleUnlessActive (state : PollState) (write : CdpWriteLifecycleState)
    (now : Rat) : KeepsRegistry c registry (settleUnlessActive c state write now) :=
  .ite (fun _ => maintains_pure _) fun _ => keepsRegistry_settle state write now

/-- The conversation is looked for. -/
theorem keepsRegistry_lookForConversation (state : PollState) (write : CdpWriteLifecycleState)
    (now : Rat) : KeepsRegistry c registry (lookForConversation c state write now) := by
  refine .ite (fun _ => ?_) fun _ => keepsRegistry_settleUnlessActive state write now
  refine (keepsRegistry_readFreshRoute state write).bind fun state =>
    keepsRegistry_observe fun snapshot => ?_
  rcases snapshot.write with _ | _ | _ | _
  · exact keepsRegistry_of_untouched (untouched_failClosed _)
  · exact .ite (fun _ => (keepsRegistry_of_untouched (untouched_ask _)).bind fun _ =>
      maintains_pure _) fun _ => maintains_pure _
  · exact keepsRegistry_settleUnlessActive state write now
  · exact keepsRegistry_throwOrFailClosed _

/-- A poll that found the write. -/
theorem keepsRegistry_pollWrite (state : PollState) (write : CdpWriteLifecycleState) (now : Rat) :
    KeepsRegistry c registry (pollWrite c state write now) := by
  refine (keepsRegistry_of_untouched (untouched_applyResponseDeadline _ _)).bind fun _ => ?_
  cases write with
  | ACTIVE =>
    exact .ite (fun _ => keepsRegistry_of_untouched (untouched_failClosed _))
      fun _ => keepsRegistry_lookForConversation state .ACTIVE now
  | FAILED => exact keepsRegistry_throwOrFailClosed _
  | FINISHED =>
    cases c.target with
    | thread threadHandle => exact keepsRegistry_finishThread state threadHandle
    | fresh => exact keepsRegistry_lookForConversation state .FINISHED now
    | project _ => exact keepsRegistry_lookForConversation state .FINISHED now

/-- One poll. -/
theorem keepsRegistry_poll (state : PollState) : KeepsRegistry c registry (poll c state) := by
  refine (keepsRegistry_of_untouched untouched_isAborted).bind fun aborted =>
    (keepsRegistry_record _).bind fun _ => (keepsRegistry_of_untouched (untouched_ask _)).bind
      fun now => (keepsRegistry_of_untouched untouched_readTurnObservation).bind fun snapshot => ?_
  refine (keepsRegistry_of_untouched (untouched_updateResponseDelivery snapshot _)).bind fun _ => ?_
  cases snapshot.write with
  | none =>
    exact .ite (fun _ => keepsRegistry_of_untouched (untouched_failClosed _))
      fun _ => maintains_pure _
  | some write => exact keepsRegistry_pollWrite _ write now

/-- The induction is on the fuel. -/
theorem keepsRegistry_pollLoop (fuel : ℕ) (state : PollState) :
    KeepsRegistry c registry (pollLoop c fuel state) := by
  induction fuel generalizing state with
  | zero => exact maintains_throw fun _ h => h
  | succ fuel ih =>
    refine (keepsRegistry_poll state).bind fun outcome => ?_
    cases outcome with
    | done result => exact maintains_pure result
    | again state =>
      exact (keepsRegistry_of_untouched (untouched_ask _)).bind fun _ => ih state

/-! ## The turn -/

/-- The turn, from its armed observation on. -/
theorem keepsRegistry_runTurn (fuel : ℕ) (expectedRoute : RouteExpectation) (node : Option Rat) :
    KeepsRegistry c registry (runTurn c fuel expectedRoute node) := by
  refine (keepsRegistry_of_untouched (untouched_insertWhileIdle node)).bind fun form =>
    (keepsRegistry_record _).bind fun _ =>
      (keepsRegistry_of_untouched (untouched_submit expectedRoute node form)).bind fun _ =>
        (keepsRegistry_of_untouched untouched_isAborted).bind fun cancelled => ?_
  exact (keepsRegistry_of_untouched (untouched_ask _)).bind fun _ => keepsRegistry_pollLoop fuel _

/-- The whole execution. -/
theorem keepsRegistry_executeScheduled (fuel : ℕ) :
    KeepsRegistry c registry (executeScheduled c fuel) := by
  refine (keepsRegistry_of_untouched untouched_resolveExpectedRoute).bind fun expectedRoute =>
    (keepsRegistry_of_untouched (untouched_beforeCommit (untouched_prepareComposer _))).bind
      fun node => (keepsRegistry_of_untouched (untouched_beforeCommit
        untouched_armTurnObservation)).bind fun _ => ?_
  have hrelease : KeepsRegistry c registry (releaseTurnObservation c) :=
    keepsRegistry_of_untouched untouched_releaseTurnObservation
  intro run h
  rw [wp_finalize]
  refine wp_mono (keepsRegistry_runTurn fuel expectedRoute node run h)
    (fun result run' h' => hrelease run' h') fun i run' h' => ?_
  cases i with
  | thrown error => exact wp_mono (hrelease run' h') (fun _ _ h => h) fun _ _ h => h
  | pending => exact h'

/-- What a turn has done to the registry, however it ended, or hangs. -/
theorem registers_executeInternal {fuel : ℕ} {outcome : Except (Interrupt ThrownError) TurnResult}
    {run : TurnRun} (hrun : executeInternal c fuel { registry } = (outcome, run)) :
    Registers c registry run := by
  have hkeeps : KeepsRegistry c registry (executeInternal c fuel) := by
    refine .ite (fun _ => keepsRegistry_of_untouched (within_fail _)) fun _ => ?_
    cases c.environment.refusal with
    | some error => exact keepsRegistry_of_untouched (within_fail error)
    | none => exact keepsRegistry_executeScheduled fuel
  have hspec := hkeeps { registry } registers_start
  unfold Effect.wp at hspec
  rw [hrun] at hspec
  cases outcome <;> exact hspec

end TurnExecutor

end Threadwire
