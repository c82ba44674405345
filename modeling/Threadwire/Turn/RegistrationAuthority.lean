import Threadwire.Routing.RegistryInvariant
import Threadwire.Turn.ResponseProtocol
import Threadwire.Turn.TurnFrame

/-!
# Which conversations a turn registers

A turn reserves or registers a conversation only after the route reads that make it the turn's own:
`Vetted`. The last read before the registration returned it and began after the write was observed
finished; for a project, an earlier read returned it too, and that was the first read of the turn
that showed a conversation of the project.

A turn of a project that rejects leaves no entry in the registry, unless what it rejects with is the
error of releasing its observation, after the turn had its result (`registration_authority`).
-/

namespace Threadwire

namespace TurnExecutor

open Effect

/-! ## The law of the registration -/

/-- The actions of a route read that returned this. -/
def readOf (locator : Option ConversationLocator) : List TurnAction :=
  [.dispatched .getCurrentConversationLocator, .returned .getCurrentConversationLocator,
    .routeRead locator]

/-- The conversation that an action reserves or registers. -/
def registers? : TurnAction → Option ConversationLocator
  | .registered locator _ | .reserved locator _ => some locator
  | _ => none

/-- The write was observed in this state. -/
def WriteObserved (write : CdpWriteLifecycleState) (trace : List TurnAction) : Prop :=
  ∃ snapshot, .observed snapshot ∈ trace ∧ snapshot.write = some write

/-- No route read has returned a conversation of the target. -/
def NoOwnedRead (c : TurnCall) (trace : List TurnAction) : Prop :=
  ∀ locator, ownsConversation c locator = .ok true → .routeRead (some locator) ∉ trace

/-- A route read returned this conversation after the write was observed, and none before it
returned a conversation of the target. -/
def FirstRead (c : TurnCall) (locator : ConversationLocator) (trace : List TurnAction) : Prop :=
  ∃ before after, trace = before ++ readOf (some locator) ++ after ∧
    (∃ write, WriteObserved write before) ∧ NoOwnedRead c before

/-- The last route read returned this conversation, and began after the write was observed finished
and these actions. -/
def LastRead (locator : ConversationLocator) (trace : List TurnAction)
    (earlier : List TurnAction → Prop) : Prop :=
  ∃ before after, trace = before ++ readOf (some locator) ++ after ∧
    WriteObserved .FINISHED before ∧ earlier before ∧ ∀ read, .routeRead read ∉ after

/-- The reads that make a conversation the turn's own. -/
structure Vetted (c : TurnCall) (locator : ConversationLocator) (trace : List TurnAction) : Prop where
  owned : ownsConversation c locator = .ok true
  reads : LastRead locator trace fun before => isProject c = true → FirstRead c locator before

/-- The law of the registration: a conversation may be reserved or registered by a turn that is not
of a thread, when it is vetted; a project's must not have been in the registry. -/
def MayRegister (c : TurnCall) (registry : ThreadRegistry) (past : List TurnAction)
    (action : TurnAction) : Prop :=
  ∀ locator, registers? action = some locator →
    isThread c = false ∧ Vetted c locator past ∧
      (isProject c = true → registry.hasLocator c.parseUrl locator = .ok false)

/-- Every entry of the second registry is one of the first. -/
structure NoNewEntries (before after : ThreadRegistry) : Prop where
  committed : ∀ handle locator, after.committedHandleToLocator.get? handle = some locator →
    before.committedHandleToLocator.get? handle = some locator
  provisional : ∀ handle entry, after.provisionalHandleToEntry.get? handle = some entry →
    before.provisionalHandleToEntry.get? handle = some entry

/-- Every entry of the registry was there, or is of a conversation that the turn registered. -/
def Accounted (c : TurnCall) (registry : ThreadRegistry) (run : TurnRun) : Prop :=
  ∀ handle locator, ThreadRegistry.Bound run.registry.toRegistryMaps handle locator →
    ThreadRegistry.Bound registry.toRegistryMaps handle locator ∨
    ∃ action ∈ run.trace, ∃ registered, registers? action = some registered ∧
      createConversationLocator c.parseUrl registered = .ok locator

variable {c : TurnCall} {registry : ThreadRegistry} {run run' : TurnRun}
  {trace : List TurnAction} {locator : ConversationLocator}

/-! ## Traces -/

/-- Every other action registers nothing. -/
theorem registers?_eq_none {action : TurnAction} (h : action.isRegistration = false) :
    registers? action = none := by
  cases action <;> first | rfl | cases h

/-- An observation stays in the trace. -/
theorem WriteObserved.append {write : CdpWriteLifecycleState} (h : WriteObserved write trace)
    (suffix : List TurnAction) : WriteObserved write (trace ++ suffix) := by
  obtain ⟨snapshot, hmem, hwrite⟩ := h
  exact ⟨snapshot, List.mem_append_left suffix hmem, hwrite⟩

/-- The first read stays the first one. -/
theorem FirstRead.append (h : FirstRead c locator trace) (suffix : List TurnAction) :
    FirstRead c locator (trace ++ suffix) := by
  obtain ⟨before, after, rfl, hwrite, hnone⟩ := h
  exact ⟨before, after ++ suffix, by rw [List.append_assoc], hwrite, hnone⟩

/-- The last read stays the last one where nothing is read after it. -/
theorem LastRead.append {earlier : List TurnAction → Prop} (h : LastRead locator trace earlier)
    {suffix : List TurnAction} (hsuffix : ∀ read, .routeRead read ∉ suffix) :
    LastRead locator (trace ++ suffix) earlier := by
  obtain ⟨before, after, rfl, hfinished, hearlier, hafter⟩ := h
  refine ⟨before, after ++ suffix, by rw [List.append_assoc], hfinished, hearlier, fun read => ?_⟩
  rw [List.mem_append]
  exact not_or.mpr ⟨hafter read, hsuffix read⟩

/-- Nothing of the target was read here, and nothing there. -/
theorem NoOwnedRead.append (h : NoOwnedRead c trace) {suffix : List TurnAction}
    (hsuffix : NoOwnedRead c suffix) : NoOwnedRead c (trace ++ suffix) := fun locator howned => by
  rw [List.mem_append]
  exact not_or.mpr ⟨h locator howned, hsuffix locator howned⟩

/-- Actions that are not of the registration read nothing from the route. -/
theorem not_read_of_isRegistration {suffix : List TurnAction}
    (h : ∀ action ∈ suffix, action.isRegistration = false)
    (read : Option ConversationLocator) : .routeRead read ∉ suffix :=
  fun hmem => nomatch h _ hmem

/-! ## Before the registration -/

/-- Nothing was registered. -/
structure Unregistered (c : TurnCall) (registry : ThreadRegistry) (run : TurnRun) : Prop where
  registry : run.registry = registry
  pendingProjectCompletion : run.pendingProjectCompletion = none
  unregistered : ∀ action ∈ run.trace, registers? action = none
  responding : c.listening = true → run.responseState.isSome = true

/-- What a turn leaves that throws. -/
structure Rejected (c : TurnCall) (registry : ThreadRegistry) (run : TurnRun) : Prop where
  lawful : Trace.Lawful (MayRegister c registry) run.trace
  accounted : Accounted c registry run
  withdrawn : isProject c = true → NoNewEntries registry run.registry

/-- A registry has no entry that is new to itself. -/
theorem NoNewEntries.refl (registry : ThreadRegistry) : NoNewEntries registry registry :=
  ⟨fun _ _ h => h, fun _ _ h => h⟩

/-- A trace without registrations is lawful. -/
theorem lawful_of_unregistered (h : ∀ action ∈ trace, registers? action = none) :
    Trace.Lawful (MayRegister c registry) trace := by
  intro past action future hsplit locator hlocator
  rw [h action (by simp [hsplit])] at hlocator
  cases hlocator

/-- A turn that registered nothing may throw. -/
theorem Unregistered.rejected (h : Unregistered c registry run) : Rejected c registry run where
  lawful := lawful_of_unregistered h.unregistered
  accounted _ _ hbound := .inl (h.registry ▸ hbound)
  withdrawn _ := h.registry ▸ .refl _

/-- Nor has it registered anything since. -/
theorem Unregistered.trans (h : Unregistered c registry run) (hrun : Unregistering run run') :
    Unregistered c registry run' := by
  obtain ⟨suffix, htrace, hsuffix⟩ := hrun.trace
  refine ⟨hrun.registry.trans h.registry,
    hrun.pendingProjectCompletion.trans h.pendingProjectCompletion, fun action haction => ?_,
    fun hlistening => hrun.responding (h.responding hlistening)⟩
  rw [htrace, List.mem_append] at haction
  exact haction.elim (h.unregistered action) fun hmem => registers?_eq_none (hsuffix action hmem)

/-- What is thrown before the registration. -/
def Rejects (c : TurnCall) (registry : ThreadRegistry) (_ : Interrupt ThrownError)
    (run : TurnRun) : Prop :=
  Rejected c registry run

/-- A part of the turn that does not register: what holds after it. -/
theorem Unregistered.wp {α : Type} (h : Unregistered c registry run) {x : TurnM α}
    (hx : Within Untouched x) {Q : α → TurnRun → Prop}
    (hQ : ∀ a run', Untouched run run' → Q a run') :
    Effect.wp x Q (Rejects c registry) run :=
  wp_mono (hx run) (fun a run' hrun => hQ a run' hrun) fun _ _ hrun =>
    (h.trans hrun.toUnregistering).rejected

/-- An observation that returns is in the trace. -/
theorem wp_readTurnObservation_observed :
    wp (readTurnObservation c) (fun snapshot run' => .observed snapshot ∈ run'.trace)
      (fun _ _ => True) run := by
  rw [readTurnObservation, wp_bind, wp_ask]
  rcases c.environment.getTurnObservation run.asked with error | snapshot
  · dsimp only
    rw [wp_ite]
    split <;> trivial
  · exact List.mem_append_right _ List.mem_cons_self

/-- A read of the observation leaves what it showed. -/
theorem Unregistered.wp_readTurnObservation (h : Unregistered c registry run)
    {Q : CdpTurnObservationSnapshot → TurnRun → Prop}
    (hQ : ∀ snapshot run', Untouched run run' → .observed snapshot ∈ run'.trace →
      Q snapshot run') :
    Effect.wp (readTurnObservation c) Q (Rejects c registry) run :=
  wp_mono (wp_and (untouched_readTurnObservation run) wp_readTurnObservation_observed)
    (fun snapshot run' hrun => hQ snapshot run' hrun.1 hrun.2) fun _ _ hrun =>
      (h.trans hrun.1.toUnregistering).rejected

/-! ## Route reads -/

/-- The run after a route read that returned this. -/
def afterRead (run : TurnRun) (locator : Option ConversationLocator) : TurnRun :=
  { run with asked := run.asked + 1, trace := run.trace ++ readOf locator }

/-- A read that returns is in the trace, with what it returned. -/
theorem wp_readRoute_afterRead (message : String) :
    wp (readRoute c message) (fun locator run' => run' = afterRead run locator)
      (fun _ => Untouched run) run := by
  have hframe : Within Untouched (withTimeout c false message .getCurrentConversationLocator
      c.environment.getCurrentConversationLocator) := untouched_withTimeout _ _ _ _
  have hreturned : wp (withTimeout c false message .getCurrentConversationLocator
      c.environment.getCurrentConversationLocator)
      (fun locator run' => run'.log (.routeRead locator) = afterRead run locator)
      (fun _ _ => True) run := by
    simp only [withTimeout, wp_bind, wp_onlyIf, Bool.false_eq_true, if_false, wp_record, wp_ask]
    rcases c.environment.getCurrentConversationLocator _ with (error | locator) | _ | _
    · trivial
    · dsimp only
      rw [wp_bind, wp_record, wp_pure]
      simp [TurnRun.log, afterRead, readOf]
    · trivial
    · simp [wp_bind]
  rw [readRoute, wp_bind]
  refine wp_mono (wp_and (hframe run) hreturned) (fun locator run' hrun => ?_) fun _ _ hrun => hrun.1
  rw [wp_bind, wp_record, wp_pure]
  exact hrun.2

/-- An attempt at a route read. -/
theorem Unregistered.wp_attemptRead (h : Unregistered c registry run) (message : String)
    {Q : Except ThrownError (Option ConversationLocator) → TurnRun → Prop}
    (hread : ∀ locator, Q (.ok locator) (afterRead run locator))
    (herror : ∀ error run', Untouched run run' → Q (.error error) run') :
    Effect.wp (attempt (readRoute c message)) Q (Rejects c registry) run := by
  rw [wp_attempt]
  refine wp_mono (wp_readRoute_afterRead message) (fun locator run' hrun => ?_)
    fun i run' hrun => ?_
  · rw [hrun]
    exact hread locator
  · cases i with
    | thrown error => exact herror error run' hrun
    | pending => exact (h.trans hrun.toUnregistering).rejected

/-- A read registers nothing. -/
theorem Unregistered.afterRead (h : Unregistered c registry run)
    (locator : Option ConversationLocator) :
    Unregistered c registry (TurnExecutor.afterRead run locator) := by
  refine ⟨h.registry, h.pendingProjectCompletion, fun action haction => ?_, h.responding⟩
  rcases List.mem_append.mp haction with haction | haction
  · exact h.unregistered action haction
  · simp only [readOf, List.mem_cons, List.not_mem_nil, or_false] at haction
    rcases haction with rfl | rfl | rfl <;> rfl

/-! ## The end of the response -/

/-- The response has come to an error. -/
def Faulty (run : TurnRun) : Prop :=
  ∃ state error, run.responseState = some state ∧ state.terminalError = some error

/-- A response that has come to no error was finalized. -/
theorem eq_true_of_faulty {finalized : Bool} (h : finalized = false → Faulty run)
    (hnone : run.responseState.bind (·.terminalError) = none) : finalized = true := by
  by_contra hne
  obtain ⟨state, error, hstate, herror⟩ := h (by simpa using hne)
  simp [hstate, herror] at hnone

/-- An event that was not accepted leaves the response in error. -/
theorem wp_announce_cases {event : ResponseStreamEvent} (hstate : run.responseState.isSome = true) :
    wp (announce c event) (fun accepted run' => Untouched run run' ∧ (accepted = false → Faulty run'))
      (fun _ _ => False) run := by
  have hfaulty : wp (announce c event) (fun accepted run' => accepted = false → Faulty run')
      (fun _ _ => False) run := by
    obtain ⟨state, hstate⟩ := Option.isSome_iff_exists.mp hstate
    rw [announce, wp_bind, callListener, wp_bind, wp_ask, wp_bind, wp_record, wp_pure, wp_bind,
      wp_onlyIf]
    cases c.environment.listenerThrows run.asked with
    | false => exact fun h => by cases h
    | true =>
      simp only [recordTerminalError, wp_bind, wp_readResponse, TurnRun.log, hstate]
      cases herror : state.terminalError with
      | some error => exact fun _ => ⟨state, error, rfl, herror⟩
      | none => exact fun _ => ⟨{ state with terminalError := some _ }, _, rfl, rfl⟩
  exact wp_mono (wp_and (untouched_announce event run) hfaulty) (fun _ _ h => h) fun _ _ h => h.2

/-- So does the deferred text. -/
theorem wp_announceDeferred_cases {state : ResponseDeliveryState}
    (hstate : run.responseState.isSome = true) :
    wp (announceDeferred c state)
      (fun accepted run' => Untouched run run' ∧ (accepted = false → Faulty run'))
      (fun _ _ => False) run := by
  rw [announceDeferred, wp_ite]
  split
  · rw [wp_bind]
    refine wp_mono (wp_announce_cases hstate) (fun accepted run' hrun => ?_) fun _ _ h => h
    rw [wp_bind]
    have hdeferred : Within Untouched (onlyIf accepted
        (modifyResponse fun state => { state with deliveryDeferred := false })) :=
      (untouched_modifyResponse fun _ => by rfl).onlyIf
    cases accepted with
    | false => exact hrun
    | true =>
      have hnext := hdeferred run'
      rw [wp_onlyIf, if_pos rfl, wp_modifyResponse] at hnext
      rw [wp_onlyIf, if_pos rfl, wp_modifyResponse]
      exact ⟨IsTrans.trans _ _ _ hrun.1 hnext, fun h => by cases h⟩
  · exact ⟨refl run, fun h => by cases h⟩

/-- The end of a response that is complete and faultless: it is finalized after `before`, or it has
come to an error, before or after that. -/
theorem wp_finalizeResponseDelivery_cases (before : TurnM Unit) (B : TurnRun → Prop)
    (E : Interrupt ThrownError → TurnRun → Prop) {state : ResponseDeliveryState}
    (hstate : run.responseState = some state) (hunfinalized : state.finalized = false)
    (hcompleted : state.semanticCompleted = true) (herror : state.terminalError = none)
    (hbefore : ∀ run', Untouched run run' → wp before (fun _ => B) E run')
    (hB : ∀ run', B run' → run'.responseState.isSome = true) :
    wp (finalizeResponseDelivery c before)
      (fun finalized run' => (finalized = false → Faulty run') ∧
        ((∃ done, B done ∧ Unregistering done run') ∨ finalized = false ∧ Untouched run run'))
      E run := by
  have hsome : run.responseState.isSome = true := by rw [hstate]; rfl
  rw [finalizeResponseDelivery, wp_bind, wp_readResponse, hstate]
  dsimp only
  rw [if_neg (by simp [hunfinalized]), if_neg (by simp [hcompleted, herror]), wp_ite]
  -- The response has no text: it fails before anything else.
  split
  · have hrecorded := untouched_recordTerminalError (.ofCode .responseStreamFailed) run
    simp only [recordTerminalError, wp_bind, wp_readResponse, hstate, herror, wp_modifyResponse,
      wp_record] at hrecorded ⊢
    exact ⟨fun _ => ⟨{ state with terminalError := some _ }, _, rfl, rfl⟩, .inr ⟨rfl, hrecorded⟩⟩
  rw [wp_bind]
  refine wp_mono (wp_announceDeferred_cases hsome) (fun accepted run₁ hrun₁ => ?_)
    fun _ _ h => h.elim
  -- Each announcement may be refused by the listener, and then the response has come to an error.
  cases accepted with
  | false => exact ⟨hrun₁.2, .inr ⟨rfl, hrun₁.1⟩⟩
  | true =>
    rw [if_neg (by simp), wp_bind]
    refine wp_mono (wp_announce_cases (hrun₁.1.responding hsome)) (fun accepted run₂ hrun₂ => ?_)
      fun _ _ h => h.elim
    have hrun : Untouched run run₂ := IsTrans.trans _ _ _ hrun₁.1 hrun₂.1
    cases accepted with
    | false => exact ⟨hrun₂.2, .inr ⟨rfl, hrun⟩⟩
    | true =>
      rw [if_neg (by simp), wp_bind]
      -- Only here does `before` run.
      refine wp_mono (hbefore run₂ hrun) (fun _ done hdone => ?_) fun _ _ h => h
      rw [announceCompleted, wp_bind]
      refine wp_mono (wp_announce_cases (hB done hdone)) (fun accepted run₃ hrun₃ => ?_)
        fun _ _ h => h.elim
      have hdone' := hrun₃.1.toUnregistering
      rw [wp_bind, wp_onlyIf]
      cases accepted with
      | false => exact ⟨hrun₃.2, .inl ⟨done, hdone, hdone'⟩⟩
      | true =>
        rw [if_pos rfl, wp_modifyResponse]
        refine ⟨fun h => (nomatch h : _), .inl ⟨done, hdone, hdone'.trans ?_⟩⟩
        exact ⟨rfl, rfl, rfl, ⟨[], (List.append_nil _).symm, by simp⟩, by simp⟩

/-! ## The registration -/

/-- The turn may end with this conversation: it is vetted, or it is none that the registry takes. -/
def Candidate (c : TurnCall) (locator : ConversationLocator) (trace : List TurnAction) : Prop :=
  Vetted c locator trace ∨ c.parseUrl locator = none

/-- A handle that was not in use and a locator, in the registry's form, that was not known. -/
structure NewEntry (c : TurnCall) (registry : ThreadRegistry) (locator : ConversationLocator)
    (handle : ThreadHandle) (normalized : ConversationLocator) : Prop where
  normal : createConversationLocator c.parseUrl locator = .ok normalized
  unknown : registry.locatorToHandle.get? normalized = none
  unused : ThreadRegistry.handleExists registry.toRegistryMaps handle = false

/-- The run after a registration with this result. -/
structure Registered (c : TurnCall) (registry : ThreadRegistry) (locator : ConversationLocator)
    (result : ThreadRegistrationResult) (run : TurnRun) : Prop where
  lawful : Trace.Lawful (MayRegister c registry) run.trace
  accounted : Accounted c registry run
  recorded : .registered locator result ∈ run.trace
  pending : run.pendingProjectCompletion = none
  entry : result.created = false ∧ run.registry = registry ∨
    result.created = true ∧ ∃ normalized,
      NewEntry c registry locator result.threadHandle normalized ∧
        run.registry = registry.registered normalized result.threadHandle

/-- The run after a reservation with this result. -/
structure ReservedEntry (c : TurnCall) (registry : ThreadRegistry) (locator : ConversationLocator)
    (result : ProvisionalThreadRegistrationResult) (run : TurnRun) : Prop where
  lawful : Trace.Lawful (MayRegister c registry) run.trace
  accounted : Accounted c registry run
  recorded : .reserved locator result ∈ run.trace
  pending : run.pendingProjectCompletion = none
  entry : result.transaction = none ∧ run.registry = registry ∨
    result.transaction = some registry.nextTransaction ∧ ∃ normalized,
      NewEntry c registry locator result.threadHandle normalized ∧
        run.registry = registry.reserved normalized result.threadHandle

/-- The law of the registration is not about other actions. -/
theorem lawful_append (h : Trace.Lawful (MayRegister c registry) trace) {suffix : List TurnAction}
    (hsuffix : ∀ action ∈ suffix, action.isRegistration = false) :
    Trace.Lawful (MayRegister c registry) (trace ++ suffix) := by
  refine h.append_of_free fun action haction past locator hlocator => ?_
  rw [registers?_eq_none (hsuffix action haction)] at hlocator
  cases hlocator

/-- The registry is accounted for as long as nothing is registered. -/
theorem Accounted.trans (h : Accounted c registry run) (hrun : Unregistering run run') :
    Accounted c registry run' := by
  obtain ⟨suffix, htrace, -⟩ := hrun.trace
  intro handle locator hbound
  rw [hrun.registry] at hbound
  refine (h handle locator hbound).imp_right ?_
  rintro ⟨action, haction, hregistered⟩
  exact ⟨action, by rw [htrace]; exact List.mem_append_left _ haction, hregistered⟩

/-- What a turn leaves that throws, it leaves also a step later. -/
theorem Rejected.trans (h : Rejected c registry run) (hrun : Unregistering run run') :
    Rejected c registry run' := by
  obtain ⟨suffix, htrace, hsuffix⟩ := hrun.trace
  refine ⟨htrace ▸ lawful_append h.lawful hsuffix, h.accounted.trans hrun, fun hproject => ?_⟩
  rw [hrun.registry]
  exact h.withdrawn hproject

/-- Failing closed never returns. -/
theorem Rejected.wp_failClosed (h : Rejected c registry run) {α : Type} (cause : ThrownError)
    {Q : α → TurnRun → Prop} : Effect.wp (failClosed c cause) Q (Rejects c registry) run :=
  h.trans ⟨rfl, rfl, rfl, ⟨[.markedUncertain c.lease], rfl, by simp; rfl⟩, id⟩

/-- A changed generation is thrown on. -/
theorem Rejected.wp_rethrow (h : Rejected c registry run) {α : Type} (error : ThrownError)
    {Q : α → TurnRun → Prop} :
    Effect.wp (rethrowGenerationChange error) Q (Rejects c registry) run :=
  h.trans ⟨rfl, rfl, rfl, ⟨[.generationChanged], rfl, by simp; rfl⟩, id⟩

/-- Any other error is thrown on, or makes the turn fail closed. -/
theorem Rejected.wp_throwOrFailClosed (h : Rejected c registry run) {α : Type} (error : ThrownError)
    {Q : α → TurnRun → Prop} : Effect.wp (throwOrFailClosed c error) Q (Rejects c registry) run := by
  rw [throwOrFailClosed, wp_ite]
  split
  · exact h.wp_failClosed error
  · exact h

/-- That there is no conversation is thrown on. -/
theorem Rejected.wp_throwConversationNotCreated (h : Rejected c registry run)
    (cause : Option ThrownError) {Q : PollOutcome → TurnRun → Prop} :
    Effect.wp (throwConversationNotCreated c cause) Q (Rejects c registry) run := by
  rw [throwConversationNotCreated, wp_ite]
  split
  · exact h.wp_failClosed _
  · exact h

/-- What the law asks of the conversation that the registry has taken. -/
theorem Candidate.mayRegister (h : Candidate c locator trace) (hthread : isThread c = false)
    (hunknown : isProject c = true → registry.hasLocator c.parseUrl locator = .ok false)
    {normalized : ConversationLocator}
    (hnormal : createConversationLocator c.parseUrl locator = .ok normalized)
    {action : TurnAction} (haction : registers? action = some locator) :
    MayRegister c registry trace action := by
  intro locator' hlocator'
  obtain rfl : locator = locator' := Option.some.inj (haction.symm.trans hlocator')
  refine ⟨hthread, h.resolve_right fun hnone => ?_, hunknown⟩
  rw [createConversationLocator, hnone] at hnormal
  cases hnormal

/-- The registry has one entry more, for a conversation that was registered. -/
theorem accounted_of_bound {normalized : ConversationLocator}
    (hnormal : createConversationLocator c.parseUrl locator = .ok normalized)
    {action : TurnAction} (haction : registers? action = some locator) (hmem : action ∈ run'.trace)
    (hregistry : ∀ handle entry, ThreadRegistry.Bound run'.registry.toRegistryMaps handle entry →
      ThreadRegistry.Bound registry.toRegistryMaps handle entry ∨ normalized = entry) :
    Accounted c registry run' := by
  intro handle entry hbound
  refine (hregistry handle entry hbound).imp_right fun h => ⟨action, hmem, locator, haction, ?_⟩
  rw [hnormal, h]

/-- A candidate is registered, under a new entry or the one that it had. -/
theorem Unregistered.wp_registerWithStatus (h : Unregistered c registry run)
    (hthread : isThread c = false) (hcandidate : Candidate c locator run.trace)
    (hunknown : isProject c = true → registry.hasLocator c.parseUrl locator = .ok false) :
    Effect.wp (registerWithStatus c locator)
      (fun result run' => Registered c registry locator result run' ∧
        run'.responseState = run.responseState)
      (Rejects c registry) run := by
  have hlawful : Trace.Lawful (MayRegister c registry) run.trace :=
    lawful_of_unregistered h.unregistered
  rw [TurnExecutor.registerWithStatus, wp_bind, wp_ask, wp_bind, wp_onRegistry]
  refine ThreadRegistry.wp_registerWithStatus ?_ ?_ ?_
  · intro error
    exact ⟨hlawful, fun _ _ hbound => .inl (h.registry ▸ hbound), fun _ => h.registry ▸ .refl _⟩
  · intro normalized existing hnormal hget _
    rw [wp_bind, wp_record, wp_pure]
    refine ⟨⟨Trace.lawful_snoc.mpr ⟨hlawful, hcandidate.mayRegister hthread hunknown hnormal rfl⟩,
      fun _ _ hbound => .inl (h.registry ▸ hbound), List.mem_append_right _ List.mem_cons_self,
      h.pendingProjectCompletion, .inl ⟨rfl, h.registry⟩⟩, rfl⟩
  · intro normalized handle hnormal hget hunused _
    rw [wp_bind, wp_record, wp_pure]
    have hentry : NewEntry c registry locator handle normalized := by
      rw [← h.registry]
      exact ⟨hnormal, hget, hunused⟩
    have hrecorded : TurnAction.registered locator ⟨handle, true⟩ ∈
        run.trace ++ [.registered locator ⟨handle, true⟩] :=
      List.mem_append_right _ List.mem_cons_self
    refine ⟨⟨Trace.lawful_snoc.mpr ⟨hlawful, hcandidate.mayRegister hthread hunknown hnormal rfl⟩,
      accounted_of_bound hnormal rfl hrecorded fun handle' entry hbound => ?_, hrecorded,
      h.pendingProjectCompletion, .inr ⟨rfl, normalized, hentry, ?_⟩⟩, rfl⟩
    · exact h.registry ▸ ThreadRegistry.bound_registered hbound
    · simp only [TurnRun.log, h.registry]

/-- A candidate of a project is reserved, under a new entry. -/
theorem Unregistered.wp_reserveProvisionalWithStatus (h : Unregistered c registry run)
    (hthread : isThread c = false) (hcandidate : Candidate c locator run.trace)
    (hunknown : isProject c = true → registry.hasLocator c.parseUrl locator = .ok false) :
    Effect.wp (reserveProvisionalWithStatus c locator)
      (fun result run' => ReservedEntry c registry locator result run' ∧
        run'.responseState = run.responseState)
      (Rejects c registry) run := by
  have hlawful : Trace.Lawful (MayRegister c registry) run.trace :=
    lawful_of_unregistered h.unregistered
  rw [TurnExecutor.reserveProvisionalWithStatus, wp_bind, wp_ask, wp_bind, wp_onRegistry]
  refine ThreadRegistry.wp_reserveProvisionalWithStatus ?_ ?_ ?_
  · intro error
    exact ⟨hlawful, fun _ _ hbound => .inl (h.registry ▸ hbound), fun _ => h.registry ▸ .refl _⟩
  · intro normalized existing hnormal hget
    rw [wp_bind, wp_record, wp_pure]
    refine ⟨⟨Trace.lawful_snoc.mpr ⟨hlawful, hcandidate.mayRegister hthread hunknown hnormal rfl⟩,
      fun _ _ hbound => .inl (h.registry ▸ hbound), List.mem_append_right _ List.mem_cons_self,
      h.pendingProjectCompletion, .inl ⟨rfl, h.registry⟩⟩, rfl⟩
  · intro normalized handle hnormal hget hunused _
    rw [wp_bind, wp_record, wp_pure]
    have hentry : NewEntry c registry locator handle normalized := by
      rw [← h.registry]
      exact ⟨hnormal, hget, hunused⟩
    have hrecorded : TurnAction.reserved locator ⟨handle, some run.registry.nextTransaction⟩ ∈
        run.trace ++ [.reserved locator ⟨handle, some run.registry.nextTransaction⟩] :=
      List.mem_append_right _ List.mem_cons_self
    refine ⟨⟨Trace.lawful_snoc.mpr ⟨hlawful, hcandidate.mayRegister hthread hunknown hnormal rfl⟩,
      accounted_of_bound hnormal rfl hrecorded fun handle' entry hbound => ?_, hrecorded,
      h.pendingProjectCompletion, .inr ⟨by rw [← h.registry], normalized, hentry, ?_⟩⟩, rfl⟩
    · exact h.registry ▸ ThreadRegistry.bound_reserved hbound
    · simp only [TurnRun.log, h.registry]

/-- A registration that created nothing left the registry alone. -/
theorem Registered.rejected {result : ThreadRegistrationResult}
    (h : Registered c registry locator result run)
    (hcreated : isProject c = true → result.created = false) : Rejected c registry run where
  lawful := h.lawful
  accounted := h.accounted
  withdrawn hproject := by
    rcases h.entry with ⟨-, hregistry⟩ | ⟨htrue, -⟩
    · exact hregistry ▸ .refl _
    · rw [hcreated hproject] at htrue
      cases htrue

/-- Without a transaction there was an entry before, so the turn may throw. -/
theorem ReservedEntry.rejected {result : ProvisionalThreadRegistrationResult}
    (h : ReservedEntry c registry locator result run) (hnone : result.transaction = none) :
    Rejected c registry run where
  lawful := h.lawful
  accounted := h.accounted
  withdrawn _ := by
    rcases h.entry with ⟨-, hregistry⟩ | ⟨hsome, -⟩
    · exact hregistry ▸ .refl _
    · rw [hnone] at hsome
      cases hsome

/-- A reservation that is rolled back leaves no entry. -/
theorem noNewEntries_rolledBack {handle : ThreadHandle} (normalized : ConversationLocator)
    (hunused : ThreadRegistry.handleExists registry.toRegistryMaps handle = false) :
    NoNewEntries registry ((registry.reserved normalized handle).rolledBack handle
      ⟨normalized, registry.nextTransaction⟩) := by
  obtain ⟨hcommitted, hprovisional⟩ := ThreadRegistry.handleExists_eq_false hunused
  refine ⟨fun _ _ h => h, fun handle' entry h => ?_⟩
  simp only [ThreadRegistry.rolledBack, ThreadRegistry.reserved] at h
  grind

/-- The rollback of a reservation, of which the run keeps the result. -/
theorem ReservedEntry.wp_rollbackReservation {result : ProvisionalThreadRegistrationResult}
    (h : ReservedEntry c registry locator result run)
    (hkept : run.projectRegistration = some result) :
    Effect.wp rollbackReservation (fun _ => Rejected c registry) (Rejects c registry) run := by
  rw [rollbackReservation, wp_bind, wp_get, hkept, Option.bind_some]
  rcases h.entry with ⟨hnone, -⟩ | ⟨hsome, normalized, hentry, hregistry⟩
  · rw [hnone]
    exact h.rejected hnone
  · rw [hsome]
    dsimp only
    have hpending : run.registry.Pending registry.nextTransaction result.threadHandle
        ⟨normalized, registry.nextTransaction⟩ := by
      rw [hregistry]
      exact ThreadRegistry.pending_reserved
    rw [wp_bind, wp_onRegistry]
    unfold Effect.wp
    rw [ThreadRegistry.rollbackProvisional, ThreadRegistry.settleProvisional_pending hpending]
    refine ⟨h.lawful.snoc_of_free (fun _ _ hlocator => by cases hlocator), ?_, fun _ => ?_⟩
    · intro handle entry hbound
      refine .inl ?_
      simp only [hregistry] at hbound
      have hnew := noNewEntries_rolledBack normalized hentry.unused
      rcases hbound with hcommitted | hprovisional
      · exact .inl (hnew.committed _ _ hcommitted)
      · obtain ⟨entry', hget, rfl⟩ := Option.map_eq_some_iff.mp hprovisional
        exact .inr (by rw [hnew.provisional _ _ hget]; rfl)
    · simp only [hregistry]
      exact noNewEntries_rolledBack _ hentry.unused

/-! ## The end of a new conversation's turn -/

/-- The conversation of a turn of a project: its entry is committed, or reserved for a completion
that is pending, as it is wherever there is a listener. -/
def CreatedConversation (c : TurnCall) (registry : ThreadRegistry) (result : TurnResult)
    (run : TurnRun) : Prop :=
  ∃ locator normalized, NewEntry c registry locator result.threadHandle normalized ∧
    result.created = true ∧
    (run.registry = registry.reserved normalized result.threadHandle ∧
        run.pendingProjectCompletion = some ⟨c.lease, registry.nextTransaction⟩ ∨
      c.listening = false ∧ run.registry = registry.registered normalized result.threadHandle ∧
        run.pendingProjectCompletion = none)

/-- The result is of a conversation that the turn reserved or registered. -/
def Recorded (trace : List TurnAction) (result : TurnResult) : Prop :=
  ∃ locator, (∃ created, .registered locator ⟨result.threadHandle, created⟩ ∈ trace) ∨
    ∃ transaction, .reserved locator ⟨result.threadHandle, some transaction⟩ ∈ trace

/-- What a turn leaves that has its result. -/
structure Resolved (c : TurnCall) (registry : ThreadRegistry) (result : TurnResult)
    (run : TurnRun) : Prop where
  lawful : Trace.Lawful (MayRegister c registry) run.trace
  accounted : Accounted c registry run
  recorded : isThread c = false → Recorded run.trace result
  created : isProject c = true → CreatedConversation c registry result run

/-- What is known of the conversation between the polls. -/
def Kept (c : TurnCall) (freshLocator : Option ConversationLocator) (trace : List TurnAction) :
    Prop :=
  match freshLocator with
  | none => NoOwnedRead c trace
  | some locator => isThread c = false ∧ FirstRead c locator trace ∧
      (ownsConversation c locator = .ok true ∨ c.parseUrl locator = none)

/-- The invariant of the polls. -/
structure Polling (c : TurnCall) (registry : ThreadRegistry) (state : PollState)
    (run : TurnRun) : Prop where
  unregistered : Unregistered c registry run
  unfinalized : run.Unfinalized
  kept : Kept c state.freshLocator run.trace

/-- What a poll comes to. -/
def Continued (c : TurnCall) (registry : ThreadRegistry) : PollOutcome → TurnRun → Prop
  | .again state, run => Polling c registry state run
  | .done result, run => Resolved c registry result run

/-- The result of a registration. -/
theorem Registered.resolved {result : ThreadRegistrationResult}
    (h : Registered c registry locator result run)
    (hcreated : isProject c = true → result.created = true ∧ c.listening = false) :
    Continued c registry (registeredResult result) run where
  lawful := h.lawful
  accounted := h.accounted
  recorded _ := ⟨locator, .inl ⟨result.created, h.recorded⟩⟩
  created hproject := by
    obtain ⟨htrue, hlistening⟩ := hcreated hproject
    rcases h.entry with ⟨hfalse, -⟩ | ⟨-, normalized, hentry, hregistry⟩
    · rw [hfalse] at htrue
      cases htrue
    · exact ⟨locator, normalized, hentry, htrue, .inr ⟨hlistening, hregistry, h.pending⟩⟩

/-- A project's conversation, registered at once: where there is no listener. -/
theorem Unregistered.wp_registerProjectConversation (h : Unregistered c registry run)
    (hthread : isThread c = false) (hcandidate : Candidate c locator run.trace)
    (hunknown : isProject c = true → registry.hasLocator c.parseUrl locator = .ok false) :
    Effect.wp (registerProjectConversation c locator)
      (fun result run' => result.created = true ∧ Registered c registry locator result run')
      (Rejects c registry) run := by
  rw [registerProjectConversation, wp_bind, wp_attempt]
  refine wp_mono (h.wp_registerWithStatus hthread hcandidate hunknown)
    (fun result run' hrun => ?_) fun i run' hrun => ?_
  · dsimp only
    rw [wp_ite]
    split
    · rename_i hcreated
      exact (hrun.1.rejected fun _ => by simpa using hcreated).wp_failClosed _
    · rename_i hcreated
      exact ⟨by simpa using hcreated, hrun.1⟩
  · cases i with
    | thrown error => exact Rejected.wp_failClosed hrun error
    | pending => exact hrun

/-- A candidate stays one. -/
theorem Candidate.trans (hcandidate : Candidate c locator run.trace)
    (hrun : Unregistering run run') : Candidate c locator run'.trace := by
  obtain ⟨suffix, htrace, hsuffix⟩ := hrun.trace
  refine hcandidate.imp_left fun h => ⟨h.owned, ?_⟩
  rw [htrace]
  exact h.reads.append (not_read_of_isRegistration hsuffix)

/-- The reservation before the completion is announced. -/
theorem Unregistered.wp_beforeCompleted (h : Unregistered c registry run)
    (hproject : isProject c = true) (hthread : isThread c = false)
    (hcandidate : Candidate c locator run.trace)
    (hunknown : registry.hasLocator c.parseUrl locator = .ok false)
    (hresponse : run.responseState.isSome = true) :
    Effect.wp (beforeCompleted c locator)
      (fun _ run' => ∃ result, ReservedEntry c registry locator result run' ∧
        result.created = true ∧ run'.projectRegistration = some result ∧
        run'.responseState.isSome = true)
      (Rejects c registry) run := by
  rw [beforeCompleted, wp_onlyIf, if_pos hproject, wp_bind, wp_isAborted, wp_bind, wp_onlyIf]
  split
  · exact h.rejected.wp_failClosed _
  rw [reserveProjectConversation, wp_bind, wp_attempt]
  refine wp_mono (h.wp_reserveProvisionalWithStatus hthread hcandidate fun _ => hunknown)
    (fun result run' hrun => ?_) fun i run' hrun => ?_
  · dsimp only
    rw [wp_ite]
    split
    · rename_i hcreated
      refine (hrun.1.rejected ?_).wp_failClosed _
      simpa [ProvisionalThreadRegistrationResult.created] using hcreated
    · rename_i hcreated
      obtain ⟨hreserved, hstate⟩ := hrun
      refine ⟨result, ⟨hreserved.lawful, hreserved.accounted, hreserved.recorded, hreserved.pending,
        hreserved.entry⟩, by simpa using hcreated, rfl, ?_⟩
      show run'.responseState.isSome = true
      rw [hstate]
      exact hresponse
  · cases i with
    | thrown error => exact Rejected.wp_failClosed hrun error
    | pending => exact hrun

/-- The reservation stays as long as nothing else is registered. -/
theorem ReservedEntry.trans {result : ProvisionalThreadRegistrationResult}
    (h : ReservedEntry c registry locator result run) (hrun : Unregistering run run') :
    ReservedEntry c registry locator result run' := by
  obtain ⟨suffix, htrace, hsuffix⟩ := hrun.trace
  refine ⟨htrace ▸ lawful_append h.lawful hsuffix, h.accounted.trans hrun, ?_,
    hrun.pendingProjectCompletion.trans h.pending, ?_⟩
  · rw [htrace]
    exact List.mem_append_left _ h.recorded
  · rw [hrun.registry]
    exact h.entry

/-- The end of a project's turn whose response is streamed: the reservation is kept for the
completion, or rolled back. -/
theorem Unregistered.wp_finishStreaming_project (h : Unregistered c registry run)
    (hproject : isProject c = true) (hthread : isThread c = false)
    (hcandidate : Candidate c locator run.trace)
    (hunknown : registry.hasLocator c.parseUrl locator = .ok false) (pollState : PollState)
    {state : ResponseDeliveryState} (hstate : run.responseState = some state)
    (hunfinalized : state.finalized = false) (hcompleted : state.semanticCompleted = true)
    (herror : state.terminalError = none) :
    Effect.wp (finishStreaming c pollState locator none) (Continued c registry)
      (Rejects c registry) run := by
  have hstart : Unregistered c registry { run with projectRegistration := none } :=
    ⟨h.registry, h.pendingProjectCompletion, h.unregistered, h.responding⟩
  have hcandidate : Candidate c locator { run with projectRegistration := none }.trace := hcandidate
  have hsome : run.responseState.isSome = true := by rw [hstate]; rfl
  rw [finishStreaming, wp_bind, wp_modify, wp_bind]
  refine wp_mono (wp_finalizeResponseDelivery_cases _ _ _ hstate hunfinalized hcompleted herror
    (fun run' hrun => Unregistered.wp_beforeCompleted (hstart.trans hrun.toUnregistering) hproject
      hthread (hcandidate.trans hrun.toUnregistering) hunknown
      (hrun.responding hsome)) fun run' h => by
        obtain ⟨_, _, _, _, h⟩ := h
        exact h)
    (fun finalized run' hrun => ?_) fun _ _ h => h
  rw [wp_bind, responseError, wp_bind, wp_readResponse, wp_pure]
  obtain ⟨hfaulty, ⟨done, ⟨result, hreserved, hcreated, hkept, -⟩, hrest⟩ | ⟨hfalse, hrest⟩⟩ := hrun
  · have hreserved := hreserved.trans hrest
    have hkept : run'.projectRegistration = some result := hrest.projectRegistration.trans hkept
    -- either the response came to an error, and the reservation is rolled back, or it was completed
    cases hresponse : run'.responseState.bind (·.terminalError) with
    | some error =>
      dsimp only
      rw [wp_bind]
      exact wp_mono (hreserved.wp_rollbackReservation hkept)
        (fun _ _ hrun => hrun.wp_throwOrFailClosed error) fun _ _ h => h
    | none =>
      obtain rfl := eq_true_of_faulty hfaulty hresponse
      dsimp only
      rw [if_neg (by simp), wp_bind, wp_get, hkept]
      rcases hreserved.entry with ⟨hnone, -⟩ | ⟨hsome, normalized, hentry, hregistry⟩
      · rw [ProvisionalThreadRegistrationResult.created, hnone] at hcreated
        cases hcreated
      · obtain ⟨threadHandle, transaction⟩ := result
        cases hsome
        dsimp only
        rw [createPendingProjectResult, wp_bind, wp_modify, wp_pure]
        exact ⟨hreserved.lawful, hreserved.accounted, fun _ => ⟨locator, .inr ⟨_, hreserved.recorded⟩⟩,
          fun _ => ⟨locator, normalized, hentry, rfl, .inl ⟨hregistry, rfl⟩⟩⟩
  · obtain ⟨state', error, hstate', herror'⟩ := hfaulty hfalse
    have hnone : run'.projectRegistration = none := hrest.projectRegistration
    rw [hstate', Option.bind_some, herror']
    dsimp only
    rw [wp_bind, rollbackReservation, wp_bind, wp_get, hnone]
    exact (hstart.trans hrest.toUnregistering).rejected.wp_throwOrFailClosed error

/-- The registration stays as well. -/
theorem Registered.trans {result : ThreadRegistrationResult}
    (h : Registered c registry locator result run) (hrun : Unregistering run run') :
    Registered c registry locator result run' := by
  obtain ⟨suffix, htrace, hsuffix⟩ := hrun.trace
  refine ⟨htrace ▸ lawful_append h.lawful hsuffix, h.accounted.trans hrun, ?_,
    hrun.pendingProjectCompletion.trans h.pending, ?_⟩
  · rw [htrace]
    exact List.mem_append_left _ h.recorded
  · rw [hrun.registry]
    exact h.entry

/-- The end of a fresh turn whose response is streamed: it was registered before. -/
theorem Registered.wp_finishStreaming_fresh {result : ThreadRegistrationResult}
    (h : Registered c registry locator result run) (hproject : isProject c = false)
    (pollState : PollState) {state : ResponseDeliveryState}
    (hstate : run.responseState = some state) (hunfinalized : state.finalized = false)
    (hcompleted : state.semanticCompleted = true) (herror : state.terminalError = none) :
    Effect.wp (finishStreaming c pollState locator (some result)) (Continued c registry)
      (Rejects c registry) run := by
  have hstart : Registered c registry locator result { run with projectRegistration := none } :=
    ⟨h.lawful, h.accounted, h.recorded, h.pending, h.entry⟩
  have hsome : run.responseState.isSome = true := by rw [hstate]; rfl
  have hbefore : ∀ run', Untouched { run with projectRegistration := none } run' →
      Effect.wp (beforeCompleted c locator)
        (fun _ done => Unregistering { run with projectRegistration := none } done)
        (Rejects c registry) run' := by
    -- There is no project to register in, so nothing is done before the completion.
    intro run' hrun
    rw [beforeCompleted, wp_onlyIf, if_neg (by simp [hproject])]
    exact hrun.toUnregistering
  rw [finishStreaming, wp_bind, wp_modify, wp_bind]
  refine wp_mono (wp_finalizeResponseDelivery_cases _ _ _ hstate hunfinalized hcompleted herror hbefore
    fun _ hdone => hdone.responding hsome) (fun finalized run' hrun => ?_) fun _ _ h => h
  -- The registration stands, whichever way the response has ended.
  have hrest : Unregistering { run with projectRegistration := none } run' := by
    rcases hrun.2 with ⟨done, hdone, hrest⟩ | ⟨-, hrest⟩
    · exact hdone.trans hrest
    · exact hrest.toUnregistering
  have hregistered := hstart.trans hrest
  have hnone : run'.projectRegistration = none := hrest.projectRegistration
  rw [wp_bind, responseError, wp_bind, wp_readResponse, wp_pure]
  cases hresponse : run'.responseState.bind (·.terminalError) with
  | some error =>
    dsimp only
    rw [wp_bind, rollbackReservation, wp_bind, wp_get, hnone]
    exact (hregistered.rejected fun hp => absurd hp (by simp [hproject])).wp_throwOrFailClosed error
  | none =>
    obtain rfl := eq_true_of_faulty hrun.1 hresponse
    dsimp only
    rw [if_neg (by simp), wp_bind, wp_get, hnone]
    exact hregistered.resolved fun hp => absurd hp (by simp [hproject])

/-- A fresh turn registers its conversation; a project's must not be known. -/
theorem Unregistered.wp_registerFresh (h : Unregistered c registry run)
    (hthread : isThread c = false) (hcandidate : Candidate c locator run.trace)
    {Q : Option ThreadRegistrationResult → TurnRun → Prop}
    (hproject : isProject c = true → registry.hasLocator c.parseUrl locator = .ok false →
      Q none run)
    (hfresh : isProject c = false → ∀ result run', Registered c registry locator result run' →
      run'.responseState = run.responseState → Q (some result) run') :
    Effect.wp (registerFresh c locator) Q (Rejects c registry) run := by
  rw [registerFresh, wp_ite]
  split
  · rw [wp_bind, wp_get, h.registry]
    cases hknown : registry.hasLocator c.parseUrl locator with
    | error error => exact h.rejected
    | ok known =>
      cases known with
      | true => exact h.rejected.wp_failClosed _
      | false => exact hproject ‹_› hknown
  · rename_i hne
    have hne : isProject c = false := by simpa using hne
    rw [wp_bind]
    exact wp_mono (h.wp_registerWithStatus hthread hcandidate fun hp => absurd hp (by simp [hne]))
      (fun result run' hrun => hfresh hne result run' hrun.1 hrun.2) fun _ _ h => h

/-- The end of a new conversation's turn, with the conversation that it is. -/
theorem Polling.wp_finishFresh {pollState : PollState} (h : Polling c registry pollState run)
    (hthread : isThread c = false) (hcandidate : Candidate c locator run.trace) :
    Effect.wp (finishFresh c pollState locator) (Continued c registry) (Rejects c registry)
      run := by
  have hrejected := h.unregistered.rejected
  rw [finishFresh, wp_bind, wp_readResponse]
  -- with a listener the response must be complete or in error before the turn ends
  cases hstate : run.responseState with
  | some state =>
    dsimp only
    rw [wp_ite]
    split
    · exact h
    rename_i hready
    have hunfinalized : state.finalized = false := h.unfinalized state hstate
    rw [wp_bind]
    refine h.unregistered.wp_registerFresh hthread hcandidate (fun hproject hknown => ?_)
      fun hfresh result run' hrun hresponse => ?_
    · cases herror : state.terminalError with
      | some error => exact hrejected.wp_throwOrFailClosed error
      | none =>
        exact h.unregistered.wp_finishStreaming_project hproject hthread hcandidate hknown
          pollState hstate hunfinalized (by simpa [herror] using hready) herror
    · have hnone : isProject c = true → result.created = false :=
        fun hp => absurd hp (by simp [hfresh])
      cases herror : state.terminalError with
      | some error => exact (hrun.rejected hnone).wp_throwOrFailClosed error
      | none =>
        exact hrun.wp_finishStreaming_fresh hfresh pollState (hresponse.trans hstate) hunfinalized
          (by simpa [herror] using hready) herror
  | none =>
    -- a turn with a listener has a response, so nobody listens
    have hlistening : c.listening = false := by
      by_contra hne
      have hsome := h.unregistered.responding (by simpa using hne)
      rw [hstate] at hsome
      cases hsome
    dsimp only
    rw [wp_bind]
    refine h.unregistered.wp_registerFresh hthread hcandidate (fun _ hknown => ?_)
      fun hfresh result run' hrun _ => ?_
    · rw [finishPlain, wp_bind, wp_isAborted, wp_bind, wp_onlyIf]
      split
      · exact hrejected.wp_failClosed _
      rw [wp_bind]
      exact wp_mono (h.unregistered.wp_registerProjectConversation hthread hcandidate
        fun _ => hknown) (fun result run' hrun => hrun.2.resolved fun _ => ⟨hrun.1, hlistening⟩)
        fun _ _ h => h
    · rw [finishPlain, wp_bind, wp_isAborted, wp_bind, wp_onlyIf, if_neg (by simp [hfresh])]
      exact hrun.resolved fun hp => absurd hp (by simp [hfresh])

/-! ## The polls -/

/-- The trace only grows. -/
theorem Unregistering.isPrefix (h : Unregistering run run') : run.trace <+: run'.trace := by
  obtain ⟨suffix, htrace, -⟩ := h.trace
  exact ⟨suffix, htrace.symm⟩

/-- What was observed is observed in a longer trace. -/
theorem WriteObserved.mono {write : CdpWriteLifecycleState} {trace' : List TurnAction}
    (h : WriteObserved write trace) (hextends : trace <+: trace') : WriteObserved write trace' := by
  obtain ⟨suffix, rfl⟩ := hextends
  exact h.append suffix

/-- What is known between the polls is not changed by other actions. -/
theorem Kept.append {freshLocator : Option ConversationLocator} (h : Kept c freshLocator trace)
    {suffix : List TurnAction} (hsuffix : NoOwnedRead c suffix) :
    Kept c freshLocator (trace ++ suffix) := by
  cases freshLocator with
  | none => exact NoOwnedRead.append h hsuffix
  | some locator => exact ⟨h.1, h.2.1.append suffix, h.2.2⟩

/-- The polls go on from there. -/
theorem Polling.trans {pollState : PollState} (h : Polling c registry pollState run)
    (hrun : Untouched run run') : Polling c registry pollState run' := by
  refine ⟨h.unregistered.trans hrun.toUnregistering, hrun.unfinalized h.unfinalized, ?_⟩
  obtain ⟨suffix, htrace, hsuffix⟩ := hrun.trace
  rw [htrace]
  exact h.kept.append fun locator _ => not_read_of_isRegistration hsuffix (some locator)

/-- The invariant is about the locator that the poll has. -/
theorem Polling.of_freshLocator {state state' : PollState} (h : Polling c registry state run)
    (hstate : state'.freshLocator = state.freshLocator) : Polling c registry state' run :=
  ⟨h.unregistered, h.unfinalized, by rw [hstate]; exact h.kept⟩

/-- The test of a locator throws where that is not a URL. -/
theorem parseUrl_of_owns_error (hvalid : ValidTarget c) {error : ThrownError}
    (herror : ownsConversation c locator = .error error) : c.parseUrl locator = none := by
  rcases htarget : c.target with threadHandle | _ | projectLocator
  · simp [ownsConversation, htarget] at herror
  · simp only [ownsConversation, htarget, isUnscopedConversationLocator] at herror
    cases hlocator : c.parseUrl locator with
    | none => rfl
    | some url => simp [hlocator] at herror
  · exact parseUrl_of_ownsConversation_error hvalid (by simp [isProject, htarget]) herror

/-- A read of nothing, or of another's conversation. -/
theorem noOwnedRead_readOf {read : Option ConversationLocator}
    (h : ∀ locator ∈ read, ownsConversation c locator ≠ .ok true) : NoOwnedRead c (readOf read) := by
  intro locator howned hmem
  simp only [readOf, List.mem_cons, reduceCtorEq, TurnAction.routeRead.injEq, List.not_mem_nil,
    or_false, false_or] at hmem
  exact h locator hmem.symm howned

/-- After the first route read of a poll. -/
theorem Polling.wp_readFreshRoute (hvalid : ValidTarget c) {pollState : PollState}
    (h : Polling c registry pollState run) (hnone : pollState.freshLocator = none)
    (hthread : isThread c = false) (hseen : ∃ write, WriteObserved write run.trace)
    (write : CdpWriteLifecycleState) :
    Effect.wp (readFreshRoute c pollState write)
      (fun state' run' => Polling c registry state' run' ∧ run.trace <+: run'.trace)
      (Rejects c registry) run := by
  have hkept : NoOwnedRead c run.trace := by
    have hkept := h.kept
    rw [hnone] at hkept
    exact hkept
  have hread : ∀ (read freshLocator : Option ConversationLocator),
      Kept c freshLocator (run.trace ++ readOf read) → ∀ state' : PollState,
      state'.freshLocator = freshLocator → Polling c registry state' (afterRead run read) := by
    intro read freshLocator hkept state' hstate
    exact ⟨h.unregistered.afterRead read, h.unfinalized, by rw [hstate]; exact hkept⟩
  have hfailed : ∀ (state' : PollState) (error : ThrownError) (run' : TurnRun),
      Polling c registry state' run' → run.trace <+: run'.trace →
      Effect.wp (freshRouteFailed c state' write error)
        (fun state'' run' => Polling c registry state'' run' ∧ run.trace <+: run'.trace)
        (Rejects c registry) run' := by
    intro state' error run' hpolling hextends
    rw [freshRouteFailed, wp_ite]
    split
    · exact hpolling.unregistered.rejected.wp_rethrow error
    rw [wp_ite]
    split
    · exact hpolling.unregistered.rejected.wp_failClosed error
    · exact ⟨hpolling.of_freshLocator rfl, hextends⟩
  rw [readFreshRoute, wp_bind]
  refine h.unregistered.wp_attemptRead _ (fun read => ?_) fun error run' hrun => ?_
  · have hextends : run.trace <+: (afterRead run read).trace := ⟨readOf read, rfl⟩
    cases read with
    | none =>
      refine ⟨hread none none ?_ _ rfl, hextends⟩
      exact hkept.append (noOwnedRead_readOf fun _ h => by cases h)
    -- the route shows a conversation; it is kept where it is the target's, and where it does not
    -- parse the registry will refuse it
    | some locator =>
      have hfirst : FirstRead c locator (run.trace ++ readOf (some locator)) :=
        ⟨run.trace, [], (List.append_nil _).symm, hseen, hkept⟩
      dsimp only
      cases howns : ownsConversation c locator with
      | error error =>
        have hparsed := parseUrl_of_owns_error hvalid howns
        exact hfailed _ error _ (hread (some locator) (some locator)
          ⟨hthread, hfirst, .inr hparsed⟩ _ rfl) hextends
      | ok owned =>
        cases owned with
        | true => exact ⟨hread _ (some locator) ⟨hthread, hfirst, .inl howns⟩ _ rfl, hextends⟩
        | false =>
          refine ⟨hread (some locator) none (hkept.append (noOwnedRead_readOf ?_)) _ rfl, hextends⟩
          rintro _ ⟨⟩
          simp [howns]
  · exact hfailed pollState error run' (h.trans hrun) (Unregistering.isPrefix hrun.toUnregistering)

/-- After the second route read of a poll. -/
theorem Polling.wp_readCurrentRoute (hvalid : ValidTarget c) {pollState : PollState}
    {freshLocator : ConversationLocator} (h : Polling c registry pollState run)
    (hfresh : pollState.freshLocator = some freshLocator)
    (hfinished : WriteObserved .FINISHED run.trace) :
    Effect.wp (readCurrentRoute c pollState freshLocator)
      (fun found run' => Polling c registry found.2 run' ∧
        ∀ locator ∈ found.1, Candidate c locator run'.trace)
      (Rejects c registry) run := by
  have hkept := h.kept
  rw [hfresh] at hkept
  obtain ⟨hthread, hfirst, -⟩ := hkept
  have hread : ∀ read state', state'.freshLocator = pollState.freshLocator →
      Polling c registry state' (afterRead run read) := by
    intro read state' hstate
    refine ⟨h.unregistered.afterRead read, h.unfinalized, ?_⟩
    rw [hstate, hfresh]
    exact ⟨hthread, hfirst.append _, (hfresh ▸ h.kept : Kept c (some freshLocator) _).2.2⟩
  have hfailed : ∀ (current : Option ConversationLocator) (error : ThrownError) (run' : TurnRun),
      Polling c registry pollState run' →
      (∀ locator ∈ current, Candidate c locator run'.trace) →
      Effect.wp (currentRouteFailed pollState current error)
        (fun found run' => Polling c registry found.2 run' ∧
          ∀ locator ∈ found.1, Candidate c locator run'.trace)
        (Rejects c registry) run' := by
    intro current error run' hpolling hcandidate
    rw [currentRouteFailed, wp_ite]
    split
    · exact hpolling.unregistered.rejected.wp_rethrow error
    · exact ⟨hpolling.of_freshLocator rfl, hcandidate⟩
  rw [readCurrentRoute, wp_bind]
  refine h.unregistered.wp_attemptRead _ (fun read => ?_) fun error run' hrun => ?_
  · cases read with
    | none => exact ⟨hread none _ rfl, fun _ h => by cases h⟩
    | some current =>
      dsimp only
      cases howns : ownsConversation c current with
      | error error =>
        refine hfailed _ error _ (hread _ _ rfl) ?_
        rintro _ ⟨⟩
        exact .inr (parseUrl_of_owns_error hvalid howns)
      | ok owned =>
        dsimp only
        rw [wp_ite]
        split
        · exact ⟨hread _ _ rfl, fun _ h => by cases h⟩
        · -- it is the one found first, read again after the write was seen finished
          rename_i hsame
          obtain ⟨rfl, heq⟩ : owned = true ∧ (isProject c = true → current = freshLocator) := by
            simpa using hsame
          refine ⟨hread _ _ rfl, ?_⟩
          rintro _ ⟨⟩
          refine .inl ⟨howns, run.trace, [], (List.append_nil _).symm, hfinished,
            fun hproject => ?_, fun _ h => by cases h⟩
          rw [heq hproject]
          exact hfirst
  · exact hfailed none error run' (h.trans hrun) fun _ h => by cases h

/-- The second route read, and the end of the turn where it stands. -/
theorem Polling.wp_revalidate (hvalid : ValidTarget c) {pollState : PollState}
    {freshLocator : ConversationLocator} (h : Polling c registry pollState run)
    (hfresh : pollState.freshLocator = some freshLocator)
    (hfinished : WriteObserved .FINISHED run.trace) :
    Effect.wp (revalidate c pollState freshLocator) (Continued c registry) (Rejects c registry)
      run := by
  have hthread : isThread c = false := (hfresh ▸ h.kept : Kept c (some freshLocator) _).1
  rw [revalidate, wp_bind]
  refine wp_mono (h.wp_readCurrentRoute hvalid hfresh hfinished) (fun found run₁ hfound => ?_)
    fun _ _ h => h
  obtain ⟨current, state⟩ := found
  obtain ⟨hpolling, hcandidate⟩ := hfound
  dsimp only at hpolling hcandidate ⊢
  rw [wp_bind]
  refine hpolling.unregistered.wp_readTurnObservation fun snapshot run₂ hrun₂ _ => ?_
  rw [wp_bind, wp_isAborted, wp_bind]
  refine (hpolling.trans hrun₂).unregistered.wp (untouched_updateResponseDelivery snapshot _)
    fun _ run₃ hrun₃ => ?_
  have hrun : Untouched run₁ run₃ := IsTrans.trans _ _ _ hrun₂ hrun₃
  have hpolling := hpolling.trans hrun
  have hrejected := hpolling.unregistered.rejected
  -- A write that failed or vanished is no turn's to register.
  rcases snapshot.write with _ | _ | _ | _ <;> dsimp only
  · exact hrejected.wp_failClosed _
  · exact hrejected.wp_failClosed _
  · rw [wp_bind, wp_isAborted, wp_ite]
    split
    · exact hrejected.wp_throwOrFailClosed _
    -- With the second read the turn finishes; without it the next poll reads again.
    cases current with
    | some locator =>
      exact hpolling.wp_finishFresh hthread
        ((hcandidate locator rfl).trans hrun.toUnregistering)
    | none =>
      have hasked : ∀ asked, Polling c registry state { run₃ with asked } := fun _ =>
        hpolling.trans ⟨⟨rfl, rfl, rfl, ⟨[], (List.append_nil _).symm, by simp⟩, id⟩, id⟩
      rw [wp_bind, wp_ask, wp_ite]
      split
      · exact (hasked _).unregistered.rejected.wp_throwConversationNotCreated _
      · exact hasked _
  · exact hrejected.wp_throwOrFailClosed _

/-- A write that is over leads to a look at the conversation, or ends the turn. -/
theorem Polling.wp_settle (hvalid : ValidTarget c) {pollState : PollState}
    (h : Polling c registry pollState run) (write : CdpWriteLifecycleState) (now : Rat)
    (hfinished : pollState.freshLocator ≠ none → WriteObserved .FINISHED run.trace) :
    Effect.wp (settle c pollState write now) (Continued c registry) (Rejects c registry) run := by
  rw [settle, wp_bind, wp_isAborted, wp_bind, wp_record]
  have hrun : ∀ cancelled, Untouched run (run.log (.checkedCancellation write cancelled)) :=
    fun _ => ⟨⟨rfl, rfl, rfl, ⟨[_], rfl, by simp; rfl⟩, id⟩, id⟩
  have hpolling := h.trans (hrun (pollState.callerCancelled || abortedAt c run.asked))
  dsimp only
  rw [wp_ite]
  split
  · exact hpolling.unregistered.rejected.wp_throwOrFailClosed _
  cases hfresh : pollState.freshLocator with
  | some freshLocator =>
    refine Polling.wp_revalidate hvalid (hpolling.of_freshLocator hfresh.symm) rfl ?_
    exact (hfinished (by simp [hfresh])).append _
  | none =>
    dsimp only
    rw [wp_ite]
    split
    · exact hpolling.unregistered.rejected.wp_throwConversationNotCreated _
    · exact hpolling.of_freshLocator hfresh.symm

/-- A write that is still active is polled again. -/
theorem Polling.wp_settleUnlessActive (hvalid : ValidTarget c) {pollState : PollState}
    (h : Polling c registry pollState run) (write : CdpWriteLifecycleState) (now : Rat)
    (hwrite : write ≠ .FAILED) (hseen : WriteObserved write run.trace) :
    Effect.wp (settleUnlessActive c pollState write now) (Continued c registry)
      (Rejects c registry) run := by
  rw [settleUnlessActive, wp_ite]
  split
  · exact h
  rename_i hactive
  refine h.wp_settle hvalid write now fun hfresh => ?_
  -- a conversation is known, so the target is none of a thread and the write is not active
  obtain ⟨locator, hlocator⟩ := Option.ne_none_iff_exists'.mp hfresh
  have hthread : isThread c = false := (hlocator ▸ h.kept : Kept c (some locator) _).1
  cases write with
  | FINISHED => exact hseen
  | ACTIVE => simp [hthread, hlocator] at hactive
  | FAILED => exact absurd rfl hwrite

/-- Before that, the conversation is looked for as long as none was found. -/
theorem Polling.wp_lookForConversation (hvalid : ValidTarget c) {pollState : PollState}
    (h : Polling c registry pollState run) (write : CdpWriteLifecycleState) (now : Rat)
    (hwrite : write ≠ .FAILED) (hseen : WriteObserved write run.trace) :
    Effect.wp (lookForConversation c pollState write now) (Continued c registry)
      (Rejects c registry) run := by
  rw [lookForConversation, wp_ite]
  split
  · -- The conversation is looked for only by turns that have none and have not found one.
    rename_i hlook
    obtain ⟨hthread, hnone⟩ : isThread c = false ∧ pollState.freshLocator = none := by
      simpa using hlook
    rw [wp_bind]
    refine wp_mono (h.wp_readFreshRoute hvalid hnone hthread ⟨write, hseen⟩ write)
      (fun state run₁ hrun₁ => ?_) fun _ _ h => h
    obtain ⟨hpolling, hextends⟩ := hrun₁
    rw [wp_bind]
    refine hpolling.unregistered.wp_readTurnObservation fun snapshot run₂ hrun₂ _ => ?_
    rw [wp_bind, wp_isAborted, wp_bind]
    refine (hpolling.trans hrun₂).unregistered.wp (untouched_updateResponseDelivery snapshot _)
      fun _ run₃ hrun₃ => ?_
    have hrun : Untouched run₁ run₃ := IsTrans.trans _ _ _ hrun₂ hrun₃
    have hpolling := hpolling.trans hrun
    have hrejected := hpolling.unregistered.rejected
    -- The write of this snapshot, not that of the poll's start, decides how the poll goes on.
    rcases snapshot.write with _ | _ | _ | _ <;> dsimp only
    · exact hrejected.wp_failClosed _
    · rw [wp_ite]
      split
      · rw [wp_bind, wp_ask]
        exact (hpolling.trans ⟨⟨rfl, rfl, rfl, ⟨[], (List.append_nil _).symm, by simp⟩, id⟩, id⟩
          : Polling c registry state { run₃ with asked := run₃.asked + 1 }).of_freshLocator rfl
      · exact hpolling.of_freshLocator rfl
    · exact hpolling.wp_settleUnlessActive hvalid write now hwrite
        (hseen.mono (hextends.trans (Unregistering.isPrefix hrun.toUnregistering)))
    · exact hrejected.wp_throwOrFailClosed _
  · exact h.wp_settleUnlessActive hvalid write now hwrite hseen

/-- The end of a thread's turn touches nothing, and it goes on only where the response is not
complete. -/
theorem Polling.wp_finishThread {pollState : PollState} (h : Polling c registry pollState run)
    (hthread : isThread c = true) (threadHandle : ThreadHandle) :
    Effect.wp (finishThread c pollState threadHandle) (Continued c registry)
      (Rejects c registry) run := by
  have hproject : isProject c = false := by
    cases htarget : c.target <;> simp_all [isThread, isProject]
  have hresolved : ∀ run', Rejected c registry run' →
      Continued c registry (.done { threadHandle, created := false }) run' := by
    intro run' hrun'
    exact ⟨hrun'.lawful, hrun'.accounted, fun h => absurd h (by simp [hthread]),
      fun h => absurd h (by simp [hproject])⟩
  have hrejected := h.unregistered.rejected
  rw [finishThread, wp_bind, wp_isAborted, wp_ite]
  split
  · exact hrejected
  rw [wp_bind, wp_readResponse]
  cases hstate : run.responseState with
  -- a thread's turn registers nothing, so all its ends are alike
  | none => exact hresolved run hrejected
  | some state =>
    dsimp only
    cases herror : state.terminalError with
    | some error => exact hrejected
    | none =>
      dsimp only
      rw [wp_ite]
      split
      · exact h
      rename_i hcompleted
      rw [wp_bind]
      refine wp_mono (wp_finalizeResponseDelivery_cases (pure ())
        (fun run' => Unregistering run run') (Rejects c registry) hstate
        (h.unfinalized state hstate) (by simpa using hcompleted) herror
        (fun _ hrun => hrun.toUnregistering) fun _ hdone => hdone.responding (by rw [hstate]; rfl))
        (fun finalized run' hrun => ?_) fun _ _ h => h
      have hrest : Unregistering run run' := by
        rcases hrun.2 with ⟨done, hdone, hrest⟩ | ⟨-, hrest⟩
        · exact hdone.trans hrest
        · exact hrest.toUnregistering
      rw [wp_bind, responseError, wp_bind, wp_readResponse, wp_pure]
      cases hresponse : run'.responseState.bind (·.terminalError) with
      | some error => exact hrejected.trans hrest
      | none =>
        obtain rfl := eq_true_of_faulty hrun.1 hresponse
        exact hresolved run' (hrejected.trans hrest)

/-- What a poll makes of the write keeps what is known of the conversation. -/
theorem Polling.wp_pollWrite (hvalid : ValidTarget c) {pollState : PollState}
    (h : Polling c registry pollState run) (write : CdpWriteLifecycleState) (now : Rat)
    (hseen : WriteObserved write run.trace) :
    Effect.wp (pollWrite c pollState write now) (Continued c registry) (Rejects c registry)
      run := by
  unfold pollWrite
  rw [wp_bind]
  refine h.unregistered.wp (untouched_applyResponseDeadline _ _) fun _ run' hrun => ?_
  have hpolling := h.trans hrun
  have hseen := hseen.mono (Unregistering.isPrefix hrun.toUnregistering)
  have hrejected := hpolling.unregistered.rejected
  cases write with
  | ACTIVE =>
    dsimp only
    rw [wp_ite]
    split
    · exact hrejected.wp_failClosed _
    · exact hpolling.wp_lookForConversation hvalid .ACTIVE now (by simp) hseen
  | FAILED => exact hrejected.wp_throwOrFailClosed _
  | FINISHED =>
    rcases htarget : c.target with threadHandle | _ | projectLocator <;> dsimp only
    · exact hpolling.wp_finishThread (by simp [isThread, htarget]) threadHandle
    · exact hpolling.wp_lookForConversation hvalid .FINISHED now (by simp) hseen
    · exact hpolling.wp_lookForConversation hvalid .FINISHED now (by simp) hseen

/-- One poll: it goes on with the invariant, or the turn has its result. -/
theorem Polling.wp_poll (hvalid : ValidTarget c) {pollState : PollState}
    (h : Polling c registry pollState run) :
    Effect.wp (poll c pollState) (Continued c registry) (Rejects c registry) run := by
  rw [poll, wp_bind, wp_isAborted, wp_bind, wp_record, wp_bind, wp_ask, wp_bind]
  have hpolled : Untouched run
      { run.log (.polled (abortedAt c run.asked)) with asked := run.asked + 1 } :=
    ⟨⟨rfl, rfl, rfl, ⟨[_], rfl, by simp; rfl⟩, id⟩, id⟩
  refine (h.trans hpolled).unregistered.wp_readTurnObservation
    fun snapshot run₁ hrun₁ hobserved => ?_
  rw [wp_bind]
  have hpolling := h.trans (IsTrans.trans _ _ _ hpolled hrun₁)
  refine hpolling.unregistered.wp (untouched_updateResponseDelivery snapshot _)
    fun _ run₂ hrun₂ => ?_
  have hpolling := hpolling.trans hrun₂
  cases hwrite : snapshot.write with
  | none =>
    dsimp only
    rw [wp_ite]
    split
    · exact hpolling.unregistered.rejected.wp_failClosed _
    · exact hpolling.of_freshLocator rfl
  | some write =>
    have hseen : WriteObserved write run₁.trace := ⟨snapshot, hobserved, hwrite⟩
    refine Polling.wp_pollWrite hvalid ?_ write _
      (hseen.mono (Unregistering.isPrefix hrun₂.toUnregistering))
    exact hpolling.of_freshLocator rfl

/-- The polls lead to a result with its authority, or to a throw. -/
theorem Polling.wp_pollLoop (hvalid : ValidTarget c) (fuel : ℕ) {pollState : PollState}
    (h : Polling c registry pollState run) :
    Effect.wp (pollLoop c fuel pollState) (Resolved c registry) (Rejects c registry) run := by
  induction fuel generalizing pollState run with
  | zero => exact h.unregistered.rejected
  | succ fuel ih =>
    rw [pollLoop, wp_bind]
    refine wp_mono (h.wp_poll hvalid) (fun outcome run' hcontinued => ?_) fun _ _ h => h
    cases outcome with
    | done result => exact hcontinued
    | again state =>
      rw [wp_bind]
      have hpolling : Polling c registry state run' := hcontinued
      exact ih (hpolling.trans (untouched_ask (fun _ => ()) run'))

/-! ## A turn -/

/-- `executeScheduled` without the release of its `finally`. -/
def executeUnreleased (c : TurnCall) (fuel : ℕ) : TurnM TurnResult := do
  let expectedRoute ← resolveExpectedRoute c
  let node ← beforeCommit (prepareComposer c expectedRoute)
  beforeCommit (armTurnObservation c)
  runTurn c fuel expectedRoute node

/-- At the start of a turn. -/
theorem rejected_start : Rejected c registry { registry } where
  lawful := Trace.lawful_nil
  accounted _ _ h := .inl h
  withdrawn _ := .refl registry

/-- The response is started where there is a listener. -/
theorem wp_insertWhileIdle_responding (node : Option Rat) :
    wp (insertWhileIdle c node)
      (fun _ run' => c.listening = true → run'.responseState.isSome = true) (fun _ _ => True)
      run := by
  have hstart : ∀ run, wp (startResponse c)
      (fun _ run' => c.listening = true → run'.responseState.isSome = true) (fun _ _ => True)
      run := by
    intro run
    rw [startResponse, wp_onlyIf]
    split
    · rw [wp_bind]
      exact wp_mono (untouched_assertNoObservedPreSubmitWrite false run) (fun _ _ _ _ => rfl)
        fun _ _ _ => trivial
    · exact fun h => absurd h ‹_›
  have hrest : ∀ {α : Type} {x : TurnM α} (run : TurnRun), Within Untouched x →
      (c.listening = true → run.responseState.isSome = true) →
      wp x (fun _ run' => c.listening = true → run'.responseState.isSome = true)
        (fun _ _ => True) run :=
    fun run hx hrun => wp_mono (hx run)
      (fun _ _ hrun' hlistening => hrun'.responding (hrun hlistening)) fun _ _ _ => trivial
  rw [insertWhileIdle, wp_bind]
  refine wp_mono (untouched_throwIfAborted run) (fun _ run _ => ?_) fun _ _ _ => trivial
  rw [wp_bind]
  refine wp_mono (hstart run) (fun _ run hrun => ?_) fun _ _ h => h
  refine hrest run ?_ hrun
  refine untouched_throwIfAborted.bind fun _ => (untouched_insertPrompt node).bind fun form => ?_
  exact (untouched_assertNoObservedPreSubmitWrite _).bind fun _ => untouched_isAborted.bind fun _ =>
    (untouched_failClosed _).onlyIf.bind fun _ => untouched_throwIfAborted.bind fun _ =>
      within_pure form

/-- The invariant at the start of the polls. -/
theorem polling_start (hrun : Untouched { registry } run)
    (hresponding : c.listening = true → run.responseState.isSome = true) (committedAt : Rat)
    (callerCancelled : Bool) :
    Polling c registry { committedAt, callerCancelled } run := by
  obtain ⟨suffix, htrace, hsuffix⟩ := hrun.trace
  have htrace : run.trace = suffix := htrace
  refine ⟨⟨hrun.registry, hrun.pendingProjectCompletion, fun action haction => ?_, hresponding⟩,
    hrun.unfinalized fun _ h => (nomatch h), ?_⟩
  · rw [htrace] at haction
    exact registers?_eq_none (hsuffix action haction)
  · rw [htrace]
    exact fun locator _ => not_read_of_isRegistration hsuffix (some locator)

/-- A part of the turn before the polls. -/
theorem wp_beforePolls {α : Type} {x : TurnM α} (hx : Within Untouched x)
    (hrun : Untouched { registry } run) {Q : α → TurnRun → Prop}
    (hQ : ∀ a run', Untouched { registry } run' → Q a run') :
    wp x Q (Rejects c registry) run :=
  wp_mono (hx run) (fun a run' h => hQ a run' (IsTrans.trans _ _ _ hrun h)) fun _ _ h =>
    rejected_start.trans (hrun.toUnregistering.trans h.toUnregistering)

/-- From its armed observation on, a turn registers what it may. -/
theorem wp_runTurn_registration (hvalid : ValidTarget c) (fuel : ℕ)
    (expectedRoute : RouteExpectation) (node : Option Rat) (hrun : Untouched { registry } run) :
    wp (runTurn c fuel expectedRoute node) (Resolved c registry) (Rejects c registry) run := by
  rw [runTurn, wp_bind]
  refine wp_mono (wp_and (untouched_insertWhileIdle node run) (wp_insertWhileIdle_responding node))
    (fun form run₁ hrun₁ => ?_)
    fun _ _ h => rejected_start.trans (hrun.toUnregistering.trans h.1.toUnregistering)
  have hcommitted : Untouched run₁ (run₁.log .committed) :=
    ⟨⟨rfl, rfl, rfl, ⟨[.committed], rfl, by simp; rfl⟩, id⟩, id⟩
  have hstart : Untouched { registry } (run₁.log .committed) :=
    IsTrans.trans _ _ _ (IsTrans.trans _ _ _ hrun hrun₁.1) hcommitted
  rw [wp_bind, wp_record, wp_bind]
  refine wp_mono (untouched_submit expectedRoute node form (run₁.log .committed))
    (fun _ run₂ hrun₂ => ?_)
    fun _ _ h => rejected_start.trans (hstart.toUnregistering.trans h.toUnregistering)
  rw [wp_bind, wp_isAborted, waitForTurnOutcome, wp_bind, wp_ask]
  have hpolls : Untouched run₂ { run₂ with asked := run₂.asked + 1 } :=
    untouched_ask (fun _ => ()) run₂
  refine (polling_start ?_ (fun hlistening => ?_) _ _).wp_pollLoop hvalid fuel
  · exact IsTrans.trans _ _ _ (IsTrans.trans _ _ _ hstart hrun₂) hpolls
  · exact hrun₂.responding (hrun₁.2 hlistening)

/-- And so does the whole execution. -/
theorem wp_executeUnreleased (hvalid : ValidTarget c) (fuel : ℕ) :
    wp (executeUnreleased c fuel) (Resolved c registry) (Rejects c registry) { registry } := by
  rw [executeUnreleased, wp_bind]
  refine wp_beforePolls untouched_resolveExpectedRoute (refl _) fun expectedRoute run hrun => ?_
  rw [wp_bind]
  refine wp_beforePolls (untouched_beforeCommit (untouched_prepareComposer expectedRoute)) hrun
    fun node run hrun => ?_
  rw [wp_bind]
  exact wp_beforePolls (untouched_beforeCommit untouched_armTurnObservation) hrun
    fun _ run hrun => wp_runTurn_registration hvalid fuel expectedRoute node hrun

/-- The turn after the release that follows this outcome. -/
def released (c : TurnCall) (result : TurnResult) (run : TurnRun) :
    Except (Interrupt ThrownError) TurnResult × TurnRun :=
  match c.environment.releaseTurnObservation run.asked with
  | .ok () => (.ok result, { run with asked := run.asked + 1 }.log (.releasedTurnObservation none))
  | .error error =>
    (.error (.thrown error),
      { run with asked := run.asked + 1 }.log (.releasedTurnObservation (some error)))

/-- How a turn ends, by how it ends without the release. -/
def EndsLike (c : TurnCall) (outcome : Except (Interrupt ThrownError) TurnResult × TurnRun)
    (unreleased : Except (Interrupt ThrownError) TurnResult × TurnRun) : Prop :=
  match unreleased with
  | (.ok result, run) => outcome = released c result run
  | (.error _, run) => ∃ i run', outcome = (.error i, run') ∧ Unregistering run run'

/-- The release comes behind every ending but a hang, and only its throw changes the outcome. -/
theorem finalize_endsLike (x : TurnM TurnResult) (run : TurnRun) :
    EndsLike c (finalize x (releaseTurnObservation c) run) (x run) := by
  have hrelease := untouched_releaseTurnObservation (c := c)
  have hspec : wp (finalize x (releaseTurnObservation c))
      (fun result run' => EndsLike c (.ok result, run') (x run))
      (fun i run' => EndsLike c (.error i, run') (x run)) run := by
    rw [wp_finalize]
    unfold Effect.wp
    rcases hx : x run with ⟨i | result, run'⟩
    · cases i with
      | pending => exact ⟨.pending, run', rfl, .rfl⟩
      | thrown error =>
        exact wp_mono (hrelease run') (fun _ run'' h => ⟨_, run'', rfl, h.toUnregistering⟩)
          fun i run'' h => ⟨i, run'', rfl, h.toUnregistering⟩
    · show wp (releaseTurnObservation c) _ _ run'
      rw [releaseTurnObservation, wp_bind, wp_ask]
      simp only [EndsLike, released]
      cases c.environment.releaseTurnObservation run'.asked <;> rfl
  have hends := wp_apply hspec
  rcases hfinalize : finalize x (releaseTurnObservation c) run with ⟨_ | _, _⟩ <;>
    rw [hfinalize] at hends <;> exact hends

/-- The execution ends like the one without the release. -/
theorem executeScheduled_endsLike (fuel : ℕ) (run : TurnRun) :
    EndsLike c (executeScheduled c fuel run) (executeUnreleased c fuel run) := by
  rw [executeScheduled, executeUnreleased]
  rcases hroute : resolveExpectedRoute c run with ⟨i | expectedRoute, run₁⟩
  · rw [bind_error hroute, bind_error hroute]
    exact ⟨i, run₁, rfl, .rfl⟩
  rw [bind_ok hroute, bind_ok hroute]
  rcases hnode : beforeCommit (prepareComposer c expectedRoute) run₁ with ⟨i | node, run₂⟩
  · rw [bind_error hnode, bind_error hnode]
    exact ⟨i, run₂, rfl, .rfl⟩
  rw [bind_ok hnode, bind_ok hnode]
  rcases harm : beforeCommit (armTurnObservation c) run₂ with ⟨i | _, run₃⟩
  · rw [bind_error harm, bind_error harm]
    exact ⟨i, run₃, rfl, .rfl⟩
  rw [bind_ok harm, bind_ok harm]
  exact finalize_endsLike _ run₃

/-! ## The authority of the registration -/

/-- What the registration of a turn has to be: every conversation that it reserves or registers may
be, the registry has no other entries than those it had, and none of a turn of a project that
rejected. -/
structure RegistersWithAuthority (c : TurnCall) (registry : ThreadRegistry)
    (outcome : Except (Interrupt ThrownError) TurnResult) (run : TurnRun) : Prop where
  lawful : Trace.Lawful (MayRegister c registry) run.trace
  accounted : Accounted c registry run
  withdrawn : isProject c = true → (∃ error, outcome = .error (.thrown error)) →
    NoNewEntries registry run.registry

/-- A turn of a project is executed up to its result, and then the release of its observation
throws. -/
def ReleaseThrows (c : TurnCall) (fuel : ℕ) (registry : ThreadRegistry) : Prop :=
  isProject c = true ∧ c.text.length ≠ 0 ∧ c.environment.refusal = none ∧
    ∃ result run error, executeUnreleased c fuel { registry } = (.ok result, run) ∧
      c.environment.releaseTurnObservation run.asked = .error error

/-- The entry of the conversation is one that the registry did not have. -/
theorem CreatedConversation.not_noNewEntries {result : TurnResult}
    (h : CreatedConversation c registry result run) : ¬ NoNewEntries registry run.registry := by
  rintro ⟨hcommitted, hprovisional⟩
  obtain ⟨locator, normalized, hentry, -, ⟨hregistry, -⟩ | ⟨-, hregistry, -⟩⟩ := h
  · have hnew := hprovisional result.threadHandle ⟨normalized, registry.nextTransaction⟩
      (by rw [hregistry]; simp [ThreadRegistry.reserved, OrderedMap.get?_set])
    rw [(ThreadRegistry.handleExists_eq_false hentry.unused).2] at hnew
    cases hnew
  · have hnew := hcommitted result.threadHandle normalized
      (by rw [hregistry]; simp [ThreadRegistry.registered, OrderedMap.get?_set])
    rw [(ThreadRegistry.handleExists_eq_false hentry.unused).1] at hnew
    cases hnew

/-- A turn that rejects without an entry of its own has the authority that the claim asks for. -/
theorem Rejected.registersWithAuthority (h : Rejected c registry run)
    (outcome : Except (Interrupt ThrownError) TurnResult) :
    RegistersWithAuthority c registry outcome run :=
  ⟨h.lawful, h.accounted, fun hproject _ => h.withdrawn hproject⟩

/-- The release registers nothing. -/
theorem released_unregistering {result : TurnResult}
    {outcome : Except (Interrupt ThrownError) TurnResult}
    (h : (outcome, run') = released c result run) : Unregistering run run' := by
  rw [released] at h
  split at h <;> cases h <;>
    exact ⟨rfl, rfl, rfl, ⟨[.releasedTurnObservation _], rfl, by simp; rfl⟩, id⟩

/-- A turn rejects before it has a result, or has one and releases its observation. -/
theorem executeInternal_cases (hvalid : ValidTarget c) {fuel : ℕ}
    {outcome : Except (Interrupt ThrownError) TurnResult}
    (hrun : executeInternal c fuel { registry } = (outcome, run)) :
    (Rejected c registry run ∧ (∃ i, outcome = .error i) ∧ ¬ ReleaseThrows c fuel registry) ∨
      (c.text.length ≠ 0 ∧ c.environment.refusal = none ∧ ∃ result run',
        executeUnreleased c fuel { registry } = (.ok result, run') ∧
          Resolved c registry result run' ∧ (outcome, run) = released c result run') := by
  rw [executeInternal] at hrun
  -- The prompt is checked before anything is asked.
  split at hrun
  · rename_i hempty
    cases hrun
    exact .inl ⟨rejected_start, ⟨_, rfl⟩, fun h => h.2.1 hempty⟩
  rename_i htext
  cases hrefusal : c.environment.refusal with
  | some error =>
    rw [hrefusal] at hrun
    cases hrun
    refine .inl ⟨rejected_start, ⟨_, rfl⟩, fun h => ?_⟩
    have hnone := h.2.2.1
    rw [hrefusal] at hnone
    cases hnone
  | none =>
    rw [hrefusal] at hrun
    dsimp only at hrun
    -- The release comes after the turn, so what it leaves is compared with the run before it.
    have hends := executeScheduled_endsLike (c := c) fuel { registry }
    have hunreleasedSpec : wp (executeUnreleased c fuel) (Resolved c registry)
        (Rejects c registry) { registry } := wp_executeUnreleased hvalid fuel
    have hspec := wp_apply hunreleasedSpec
    rw [hrun] at hends
    rcases hunreleased : executeUnreleased c fuel { registry } with ⟨i | result, run'⟩ <;>
      rw [hunreleased] at hends hspec
    · obtain ⟨i', run'', hend, hrest⟩ := hends
      cases hend
      refine .inl ⟨Rejected.trans hspec hrest, ⟨_, rfl⟩, ?_⟩
      rintro ⟨-, -, -, result, run, error, hok, -⟩
      rw [hunreleased] at hok
      cases hok
    · exact .inr ⟨htext, rfl, result, run', rfl, hspec, hends⟩

/-- A turn registers with authority, unless it is one of a project that was executed up to its
result and then failed to release its observation. -/
theorem registration_authority (c : TurnCall) (fuel : ℕ) (registry : ThreadRegistry)
    (outcome : Except (Interrupt ThrownError) TurnResult) (run : TurnRun) (hvalid : ValidTarget c)
    (hrun : executeInternal c fuel { registry } = (outcome, run)) :
    RegistersWithAuthority c registry outcome run ↔ ¬ ReleaseThrows c fuel registry := by
  obtain ⟨hrejected, -, hnot⟩ | ⟨htext, hrefusal, result, run', hunreleased, hresolved, hends⟩ :=
    executeInternal_cases hvalid hrun
  · exact iff_of_true (hrejected.registersWithAuthority _) hnot
  have hreleased := released_unregistering hends
  obtain ⟨suffix, htrace, hsuffix⟩ := hreleased.trace
  have hlawful : Trace.Lawful (MayRegister c registry) run.trace :=
    htrace ▸ lawful_append hresolved.lawful hsuffix
  have haccounted := hresolved.accounted.trans hreleased
  rw [released] at hends
  cases hrelease : c.environment.releaseTurnObservation run'.asked with
  | ok _ =>
    rw [hrelease] at hends
    cases hends
    refine iff_of_true ⟨hlawful, haccounted, ?_⟩ ?_
    · rintro - ⟨error, ⟨⟩⟩
    · rintro ⟨-, -, -, result, run, error, hok, herror⟩
      rw [hunreleased] at hok
      cases hok
      rw [hrelease] at herror
      cases herror
  | error error =>
    rw [hrelease] at hends
    cases hends
    by_cases hproject : isProject c = true
    · refine iff_of_false (fun h => ?_) (not_not.mpr ⟨hproject, htext, hrefusal, result, run',
        error, hunreleased, hrelease⟩)
      -- the turn rejects, and the entry of its conversation stays
      have hnone := h.withdrawn hproject ⟨error, rfl⟩
      rw [hreleased.registry] at hnone
      exact (hresolved.created hproject).not_noNewEntries hnone
    · exact iff_of_true ⟨hlawful, haccounted, fun hp => absurd hp hproject⟩ fun h => hproject h.1

/-! ## Turns of a project, by their route reads -/

/-- The locator of a project. -/
def projectUrl : ProjectLocator :=
  "https://chatgpt.com/g/g-p-00000000000000000000000000000030/project"

/-- The locator of a conversation of this project. -/
def firstUrl : ConversationLocator :=
  "https://chatgpt.com/g/g-p-00000000000000000000000000000030/c/x"

/-- The locator of another one. -/
def secondUrl : ConversationLocator :=
  "https://chatgpt.com/g/g-p-00000000000000000000000000000030/c/y"

/-- The parts of these locators. -/
def parseProjectUrl : UrlParser := fun value =>
  if value = projectUrl then
    some ⟨"https:", CHATGPT_ORIGIN, "", "", "/g/g-p-00000000000000000000000000000030/project"⟩
  else if value = firstUrl then
    some ⟨"https:", CHATGPT_ORIGIN, "", "", "/g/g-p-00000000000000000000000000000030/c/x"⟩
  else if value = secondUrl then
    some ⟨"https:", CHATGPT_ORIGIN, "", "", "/g/g-p-00000000000000000000000000000030/c/y"⟩
  else none

/-- A turn of the project, without a listener, whose write is finished at the first poll. -/
def projectTurn (reads : ℕ → ConversationLocator) (release : Except ThrownError Unit) :
    TurnCall where
  environment :=
    { smoothEnvironment fun question =>
        { prepareCount := 1
          write := if question < 6 then none else some .FINISHED
          response := none } with
      getCurrentConversationLocator := fun question => .settled (.ok (some (reads question)))
      releaseTurnObservation := fun _ => release }
  parseUrl := parseProjectUrl
  target := .project projectUrl
  text := Text.of "hi"
  lease := ⟨1, ⟨7, "a"⟩⟩
  listening := false

/-- The locator of the project is a URL. -/
theorem projectTurn_valid (reads : ℕ → ConversationLocator) (release : Except ThrownError Unit) :
    ValidTarget (projectTurn reads release) := by
  rintro projectLocator ⟨⟩
  show (parseProjectUrl projectUrl).isSome = true
  decide

/-- How such a turn ends, from an empty registry. -/
def projectTurnEnd (reads : ℕ → ConversationLocator) (release : Except ThrownError Unit) :
    Except (Interrupt ThrownError) TurnResult × TurnRun :=
  executeInternal (projectTurn reads release) 3 {}

/-- Where the release succeeds, the turn resolves, and registered with authority. -/
theorem registration_authority_released :
    (projectTurnEnd (fun _ => firstUrl) (.ok ())).1 = .ok ⟨"tw_b", true⟩ ∧
      RegistersWithAuthority (projectTurn (fun _ => firstUrl) (.ok ())) {}
        (projectTurnEnd (fun _ => firstUrl) (.ok ())).1
        (projectTurnEnd (fun _ => firstUrl) (.ok ())).2 := by
  refine ⟨by decide +kernel, (registration_authority _ 3 {} _ _ (projectTurn_valid _ _) rfl).mpr ?_⟩
  rintro ⟨-, -, -, result, run, error, -, ⟨⟩⟩

/-- Where it throws, the turn rejects and its conversation stays registered. -/
theorem failedRelease_keeps_registration :
    (projectTurnEnd (fun _ => firstUrl) (.error (.plain "lost"))).1 =
        .error (.thrown (.plain "lost")) ∧
      ¬ RegistersWithAuthority (projectTurn (fun _ => firstUrl) (.error (.plain "lost"))) {}
        (projectTurnEnd (fun _ => firstUrl) (.error (.plain "lost"))).1
        (projectTurnEnd (fun _ => firstUrl) (.error (.plain "lost"))).2 := by
  have hrejects : (projectTurnEnd (fun _ => firstUrl) (.error (.plain "lost"))).1 =
      .error (.thrown (.plain "lost")) := by decide +kernel
  refine ⟨hrejects, fun h => ?_⟩
  have hnew := (h.withdrawn rfl ⟨_, hrejects⟩).committed "tw_b" firstUrl (by decide +kernel)
  cases hnew

/-! ## A conversation that changes between the reads -/

/-- The conversation is one of the target, the first one that a route read returned, and the last
route read, which came after that one and after the write was observed finished, returned it again.
Every read of another one is followed by one that returned to it. -/
structure ReturnedTo (c : TurnCall) (locator : ConversationLocator) (trace : List TurnAction) :
    Prop where
  owned : ownsConversation c locator = .ok true
  reads : LastRead locator trace (FirstRead c locator)
  returned : ∀ other, other ≠ locator → .routeRead (some other) ∈ trace →
    List.Sublist [.routeRead (some other), .routeRead (some locator)] trace

/-- The reads that make a conversation the turn's own are a return to it. -/
theorem Vetted.returnedTo (hproject : isProject c = true) (h : Vetted c locator trace) :
    ReturnedTo c locator trace := by
  obtain ⟨before, after, rfl, hfinished, hfirst, hafter⟩ := h.reads
  refine ⟨h.owned, ⟨before, after, rfl, hfinished, hfirst hproject, hafter⟩,
    fun other hne hmem => ?_⟩
  have hbefore : TurnAction.routeRead (some other) ∈ before := by
    rcases List.mem_append.mp hmem with hmem | hmem
    · rcases List.mem_append.mp hmem with hmem | hmem
      · exact hmem
      · simp [readOf, hne] at hmem
    · exact absurd hmem (hafter _)
  have hreturned : TurnAction.routeRead (some locator) ∈ readOf (some locator) := by simp [readOf]
  have hpair := (List.singleton_sublist.mpr hbefore).append (List.singleton_sublist.mpr hreturned)
  exact hpair.trans (List.sublist_append_left _ after)

/-- A turn of a project reserves, registers and resolves with the conversation of its first read
that returned one of the project, and only where a later read, the last one, has returned it again. -/
theorem project_conversation_drift (c : TurnCall) (fuel : ℕ) (registry : ThreadRegistry)
    (outcome : Except (Interrupt ThrownError) TurnResult) (run : TurnRun) (hvalid : ValidTarget c)
    (hproject : isProject c = true)
    (hrun : executeInternal c fuel { registry } = (outcome, run)) :
    Trace.Lawful (fun past action => ∀ locator, registers? action = some locator →
        ReturnedTo c locator past) run.trace ∧
      ∀ result, outcome = .ok result → Recorded run.trace result := by
  have hvetted : ∀ trace, Trace.Lawful (MayRegister c registry) trace →
      Trace.Lawful (fun past action => ∀ locator, registers? action = some locator →
        ReturnedTo c locator past) trace := fun trace h =>
    h.mono fun past action hlaw locator hlocator => (hlaw locator hlocator).2.1.returnedTo hproject
  have hthread : isThread c = false := by
    cases htarget : c.target <;> simp_all [isThread, isProject]
  obtain ⟨hrejected, ⟨i, rfl⟩, -⟩ | ⟨-, -, result', run', -, hresolved, hends⟩ :=
    executeInternal_cases hvalid hrun
  · exact ⟨hvetted _ hrejected.lawful, fun result h => by cases h⟩
  have hreleased := released_unregistering hends
  obtain ⟨suffix, htrace, hsuffix⟩ := hreleased.trace
  refine ⟨hvetted _ (htrace ▸ lawful_append hresolved.lawful hsuffix), fun result hresult => ?_⟩
  have hsame : result' = result := by
    rw [released, hresult] at hends
    split at hends <;> cases hends
    rfl
  subst hsame
  have hmem : ∀ action ∈ run'.trace, action ∈ run.trace := fun action haction => by
    rw [htrace]
    exact List.mem_append_left _ haction
  obtain ⟨locator, hrecorded⟩ := hresolved.recorded hthread
  refine ⟨locator, hrecorded.imp ?_ ?_⟩
  · exact fun h => h.imp fun _ h => hmem _ h
  · exact fun h => h.imp fun _ h => hmem _ h

/-- The first read after the write finished returns one conversation, the second another one. -/
def driftingReads (question : ℕ) : ConversationLocator :=
  if question = 11 then secondUrl else firstUrl

/-- A turn that rejects every change of its conversation: once two reads after the write was observed
finished have returned two conversations of the target, it neither registers nor resolves. -/
def RejectsDrift (c : TurnCall) (outcome : Except (Interrupt ThrownError) TurnResult)
    (run : TurnRun) : Prop :=
  ∀ (snapshot : CdpTurnObservationSnapshot) (first second : ConversationLocator),
    snapshot.write = some .FINISHED → first ≠ second →
    ownsConversation c first = .ok true → ownsConversation c second = .ok true →
    List.Sublist [.observed snapshot, .routeRead (some first), .routeRead (some second)] run.trace →
    (∀ result, outcome ≠ .ok result) ∧ ∀ action ∈ run.trace, registers? action = none

/-- When the third read has returned to the first conversation, the turn registers it and
resolves. -/
theorem driftingTurn_registers :
    (projectTurnEnd driftingReads (.ok ())).1 = .ok ⟨"tw_b", true⟩ ∧
      .registered firstUrl ⟨"tw_b", true⟩ ∈ (projectTurnEnd driftingReads (.ok ())).2.trace ∧
      ¬ RejectsDrift (projectTurn driftingReads (.ok ())) (projectTurnEnd driftingReads (.ok ())).1
        (projectTurnEnd driftingReads (.ok ())).2 := by
  have hresolves : (projectTurnEnd driftingReads (.ok ())).1 = .ok ⟨"tw_b", true⟩ := by
    decide +kernel
  refine ⟨hresolves, by decide +kernel, fun h => ?_⟩
  exact (h { prepareCount := 1, write := some .FINISHED, response := none } firstUrl secondUrl rfl
    (by decide +kernel) (by decide +kernel) (by decide +kernel) (by decide +kernel)).1 _ hresolves

/-- The registration of this turn comes after the reads have returned to its conversation. -/
theorem project_conversation_drift_returned :
    ∃ past, ReturnedTo (projectTurn driftingReads (.ok ())) firstUrl past ∧
      Recorded (projectTurnEnd driftingReads (.ok ())).2.trace ⟨"tw_b", true⟩ := by
  obtain ⟨hlawful, hrecorded⟩ := project_conversation_drift (projectTurn driftingReads (.ok ())) 3 {}
    (projectTurnEnd driftingReads (.ok ())).1 (projectTurnEnd driftingReads (.ok ())).2
    (projectTurn_valid _ _) rfl rfl
  have hmem : .registered firstUrl ⟨"tw_b", true⟩ ∈
      (projectTurnEnd driftingReads (.ok ())).2.trace := by decide +kernel
  obtain ⟨past, future, hsplit⟩ := List.append_of_mem hmem
  exact ⟨past, hlawful past _ future hsplit firstUrl rfl, hrecorded _ (by decide +kernel)⟩

end TurnExecutor

end Threadwire
