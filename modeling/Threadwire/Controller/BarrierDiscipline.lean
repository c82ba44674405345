import Threadwire.Controller.CompletionOpening
import Threadwire.Effect.Company
import Threadwire.Effect.Conduct

/-!
# The operations at the barrier

An operation first waits for the completion that is pending, if one is, and then works. It waits
among others, who may confirm, roll back and abort meanwhile, but no other operation runs. `company`
says so, and what an operation owes where it waits: a sound world, in which every barrier that it has
waited for was settled with `true`, unless that is the very one it is waiting for.
-/

namespace Threadwire

namespace ThreadwireController

open Coroutine ControllerWorld

/-! ## What an operation does to the log -/

/-- The log has grown by events that are not other operations' steps, and the projects are the
same. -/
structure Appends (operation : ℕ) (w w' : ControllerWorld) : Prop where
  log : ∃ events, w'.log = w.log ++ events ∧
    ∀ event ∈ events, event.operation? = none ∨ event.operation? = some operation
  projectRegistry : w'.projectRegistry = w.projectRegistry

instance (operation : ℕ) : Std.Refl (Appends operation) :=
  ⟨fun _ => ⟨⟨[], (List.append_nil _).symm, nofun⟩, rfl⟩⟩

instance (operation : ℕ) : IsTrans ControllerWorld (Appends operation) where
  trans _ _ _ := fun ⟨⟨events, hlog, hevents⟩, hprojects⟩ ⟨⟨events', hlog', hevents'⟩, hprojects'⟩ => by
    refine ⟨⟨events ++ events', by rw [hlog', hlog, List.append_assoc], fun event hevent => ?_⟩,
      hprojects'.trans hprojects⟩
    exact (List.mem_append.mp hevent).elim (hevents event) (hevents' event)

/-- The request is no wait for a barrier. -/
def Unbarred (request : ControllerRequest) : Prop :=
  ∀ barrier signal, request ≠ .race (.barrier barrier) signal

/-- The answer is that the completion was rolled back. -/
def Refuses : (request : ControllerRequest) → request.Answer → Prop
  | .race (.barrier _) _, .settled (.ok committed) => committed = false
  | _, _ => False

/-- A request that waits for no barrier has no answer that could refuse. -/
theorem not_refuses_of_unbarred {request : ControllerRequest} (h : Unbarred request)
    (answer : request.Answer) : ¬ Refuses request answer := by
  rintro hrefuses
  cases request with
  | race promise signal =>
    cases promise with
    | barrier barrier => exact h barrier signal rfl
    | microtask | settlement => cases hrefuses
  | admission | call | forever => cases hrefuses

section Traversal

variable {settings : ControllerSettings} {operation : ℕ} {signal : Option SignalId} {α : Type}

/-- The part appends its own events only, and waits for no barrier. -/
abbrev Plain (operation : ℕ) (x : ControllerM α) : Prop :=
  Conducts (Appends operation) Unbarred x

/-- A world with the same log and the same projects. -/
theorem appends_of_eq {w w' : ControllerWorld} (hlog : w'.log = w.log)
    (hprojects : w'.projectRegistry = w.projectRegistry) : Appends operation w w' :=
  ⟨⟨[], hlog.trans (List.append_nil _).symm, nofun⟩, hprojects⟩

/-- One event that is not another operation's step. -/
theorem appends_event {w w' : ControllerWorld} {event : ControllerEvent}
    (h : event.operation? = none ∨ event.operation? = some operation)
    (hlog : w'.log = w.log ++ [event]) (hprojects : w'.projectRegistry = w.projectRegistry) :
    Appends operation w w' :=
  ⟨⟨[event], hlog, fun e he => by rwa [List.mem_singleton.mp he]⟩, hprojects⟩

/-- An event of the operation itself, or of nobody. -/
theorem appends_record {event : ControllerEvent}
    (h : event.operation? = none ∨ event.operation? = some operation) (w : ControllerWorld) :
    Appends operation w (w.record event) :=
  appends_event h rfl rfl

/-- It may be recorded. -/
theorem plain_record {event : ControllerEvent}
    (h : event.operation? = none ∨ event.operation? = some operation) :
    Plain operation (record event) :=
  conducts_modify (appends_record h)

/-- A call of the session's method is recorded. -/
theorem plain_call (method : ControllerCall) : Plain operation (call operation method) :=
  (plain_record (.inr rfl)).bind fun _ => conducts_ask nofun

/-- A call whose answer is settled with. -/
theorem plain_settle_call {method : ControllerCall}
    (f : method.Answer → Except ThrownError α) :
    Plain operation (call operation method >>= fun answer => settle (f answer)) :=
  (plain_call method).bind fun _ => conducts_settle _

/-- The signal is looked at. -/
theorem plain_throwIfAborted : Plain operation (throwIfAborted settings signal) :=
  conducts_get.bind fun _ => .onlyIf (conducts_throw _)

/-- What the race came to is a value or an error. -/
theorem plain_afterRace (message : String) (raced : CommandRace Bool) :
    Plain operation (afterRace settings signal message raced) := by
  cases raced with
  | settled outcome => exact conducts_settle outcome
  | timedOut | cancelled => exact conducts_throw _

/-- A commit is waited for by a race of its own, which is no barrier. -/
theorem plain_waitForCommit (threadHandle : ThreadHandle) :
    Plain operation (waitForCommit settings signal threadHandle) := by
  refine plain_throwIfAborted.bind fun _ => (conducts_ask nofun).bind fun called =>
    (plain_afterRace _ called).bind fun _ => conducts_get.bind fun world => ?_
  rcases world.registry.registrationState threadHandle with error | _ | _
  · exact conducts_throw error
  · exact conducts_pure ()
  · dsimp only
    cases world.registry.provisionalHandleToEntry.get? threadHandle with
    | none => exact conducts_throw _
    | some entry =>
      exact (conducts_ask nofun).bind fun raced => (plain_afterRace _ raced).bind fun _ =>
        .onlyIf (conducts_throw _)

/-- The bound runtime is admitted by calls. -/
theorem plain_admitBoundRuntime : Plain operation (admitBoundRuntime settings operation) := by
  refine .ite (conducts_throw _) ?_
  refine (plain_call _).bind fun answer => (conducts_settle answer).bind fun lease => ?_
  refine Conducts.bind (conducts_modify fun w => appends_of_eq rfl rfl) fun _ => ?_
  exact (plain_call _).bind fun answer => (conducts_settle answer).bind fun _ =>
    plain_settle_call id

/-- The controller is initialized by calls. -/
theorem plain_initializeController : Plain operation (initializeController settings operation) := by
  rw [initializeController]
  cases settings.classicPolicy with
  | managed => exact conducts_pure ()
  | boundExisting =>
    refine conducts_get.bind fun world => ?_
    cases world.boundAdmission with
    | some _ => exact (conducts_ask nofun).bind fun outcome => conducts_settle outcome
    | none =>
      refine Conducts.bind (conducts_modify fun w => appends_of_eq rfl rfl) fun _ =>
        Conducts.bind plain_admitBoundRuntime.attempt fun outcome => ?_
      exact Conducts.bind (conducts_modify fun w => appends_of_eq rfl rfl) fun _ =>
        conducts_settle outcome

/-- The bound runtime is checked by a call. -/
theorem plain_assertBoundRuntimeCurrent :
    Plain operation (assertBoundRuntimeCurrent settings operation) := by
  rw [assertBoundRuntimeCurrent]
  cases settings.classicPolicy with
  | managed => exact conducts_pure ()
  | boundExisting =>
    refine conducts_get.bind fun world => ?_
    cases world.boundRuntimeLease with
    | none => exact conducts_throw _
    | some lease =>
      cases settings.assertBoundRuntimeCurrent with
      | false => exact conducts_throw _
      | true => exact plain_settle_call id

/-- The runtime is prepared according to the policy. -/
theorem plain_prepareRuntime : Plain operation (prepareRuntime settings operation) := by
  refine (plain_record (.inr rfl)).bind fun _ => ?_
  cases settings.classicPolicy with
  | managed =>
    exact (plain_call _).bind fun answer => (conducts_settle answer).bind fun _ =>
      (plain_call _).bind fun answer => (conducts_settle answer).bind fun _ => plain_settle_call id
  | boundExisting =>
    exact plain_initializeController.bind fun _ => (plain_call _).bind fun answer =>
      (conducts_settle answer).bind fun _ => plain_assertBoundRuntimeCurrent

/-- The registration that a turn waits for is the one of its own thread. -/
theorem plain_awaitRegistration (target : TurnTarget)
    (registrationState : Option ThreadRegistrationState) :
    Plain operation (awaitRegistration settings signal target registrationState) := by
  unfold awaitRegistration
  split
  · exact plain_waitForCommit _
  · exact conducts_pure ()

/-- A route is a call. -/
theorem plain_route (target : TurnTarget) : Plain operation (route operation target) := by
  cases target <;> exact plain_settle_call id

/-- The executor's own work is one event, and no step of another operation. -/
theorem appends_execute (target : TurnTarget) (prompt : Text) (answer : ExecutorAnswer)
    (w : ControllerWorld) : Appends operation w (w.execute settings target prompt answer).2 := by
  rcases hrun : TurnExecutor.executeInternal (w.turnCall settings target prompt answer) answer.fuel
    { registry := w.registry } with ⟨interrupt | value, run⟩
  · rw [execute_error hrun]
    exact appends_of_eq rfl rfl
  · rw [execute_ok hrun]
    exact appends_event (.inl rfl) rfl rfl

/-- A turn with a listener is a call, and what the executor did. -/
theorem plain_executeStreaming (target : TurnTarget) (prompt : Text) :
    Plain operation (executeStreaming settings operation target prompt) := by
  refine (plain_call _).bind fun answer =>
    (conducts_modifyGet (appends_execute target prompt answer)).bind fun outcome => ?_
  rcases outcome with (error | _) | result
  · exact conducts_throw error
  · exact (conducts_ask nofun).bind nofun
  · exact conducts_pure result

/-! ### The operations -/

/-- A part that waits for no barrier cannot be refused. -/
theorem heeds_of_plain {x : ControllerM α} (hx : Plain operation x) :
    Heeds (Appends operation) Refuses x :=
  hx.heeds fun _ answer hrequest => not_refuses_of_unbarred hrequest answer

/-- The wait for a barrier, which does not outlast a rollback. -/
theorem heeds_awaitPendingCompletion :
    Heeds (Appends operation) Refuses (awaitPendingCompletion settings operation signal) := by
  refine Heeds.bind (heeds_of_plain conducts_get) fun world => ?_
  cases world.pendingCompletionBarrier with
  | none => exact heeds_of_plain (conducts_pure ())
  | some barrier =>
    have hwaited : Plain operation (record (.waited operation barrier)) := plain_record (.inr rfl)
    refine Heeds.bind (heeds_of_plain plain_throwIfAborted) fun _ =>
      Heeds.bind (heeds_of_plain (plain_record (.inr rfl))) fun _ raced => ⟨?_, fun hrefuses w => ?_⟩
    · refine Heeds.bind (heeds_of_plain (conducts_pure raced)) fun raced =>
        Heeds.bind (heeds_of_plain hwaited) fun _ => heeds_of_plain ?_
      exact (plain_afterRace _ raced).bind fun _ => .onlyIf (conducts_throw _)
    -- the answer is `false`, and the computation throws as soon as it has recorded it
    · rcases raced with (error | committed) | _ | _
      · cases hrefuses
      · cases hrefuses
        exact ⟨_, rfl⟩
      · cases hrefuses
      · cases hrefuses

/-- Whatever an operation does wherever it is. -/
theorem heeds_body (op : ControllerOperation) :
    Heeds (Appends operation) Refuses (body settings operation signal op) := by
  cases op with
  | executeTurn target registrationState prompt =>
    refine Heeds.bind (heeds_of_plain (plain_awaitRegistration _ _)) fun _ =>
      Heeds.bind heeds_awaitPendingCompletion fun _ => heeds_of_plain ?_
    refine plain_prepareRuntime.bind fun _ => (plain_route target).bind fun _ =>
      plain_assertBoundRuntimeCurrent.bind fun _ => (plain_executeStreaming target prompt).bind
        fun result => ?_
    exact Conducts.bind (.onlyIf (conducts_modify fun w => appends_event (.inl rfl) rfl rfl))
      fun _ => conducts_pure _
  | createProject name =>
    refine Heeds.bind heeds_awaitPendingCompletion fun _ => heeds_of_plain ?_
    exact plain_prepareRuntime.bind fun _ => plain_assertBoundRuntimeCurrent.bind fun _ =>
      (plain_call _).bind fun answer => (conducts_settle answer).bind fun _ => conducts_pure _
  | recoverRuntime =>
    refine Heeds.bind heeds_awaitPendingCompletion fun _ => heeds_of_plain ?_
    refine plain_throwIfAborted.bind fun _ => .ite (conducts_throw _) (.ite (conducts_throw _) ?_)
    exact (plain_call _).bind fun answer => (conducts_settle answer).bind fun _ =>
      (plain_call _).bind fun answer => (conducts_settle answer).bind fun _ =>
        (plain_call _).bind fun answer => (conducts_settle answer).bind fun _ =>
          (plain_call _).bind fun answer => (conducts_settle answer).bind fun _ => conducts_pure _

end Traversal

/-! ## What others do meanwhile -/

section Company

variable (settings : ControllerSettings) (operation : ℕ)

/-- The world is sound, with one completion open or none. -/
def Orderly (w : ControllerWorld) : Prop := ∃ current, Sound settings w current

/-- What others can do while an operation waits. -/
structure Later (w w' : ControllerWorld) : Prop extends Moved w w' where
  orderly : Orderly settings w → Orderly settings w'

/-- Every barrier that the operation has waited for was settled with `true`, or it waits for it with
this request. -/
def Unblocked (request : ControllerRequest) (w : ControllerWorld) : Prop :=
  ∀ barrier, .waiting operation barrier ∈ w.log →
    w.settled barrier = some true ∨ ∃ signal, request = .race (.barrier barrier) signal

/-- The company of an operation. -/
def company : Company ControllerWorld ControllerRequest ControllerRequest.Answer where
  rely := Later settings
  answers w request answer := ∃ raceEnd answers, w.answer raceEnd answers request = some answer
  owed request w := Orderly settings w ∧ Unblocked operation request w

/-- What an operation comes to that resolves: it has worked. -/
def Resolves (w : ControllerWorld) : Prop := Orderly settings w ∧ Went w.log operation

end Company

section Discipline

variable {settings : ControllerSettings} {operation : ℕ} {signal : Option SignalId}
  {w w' : ControllerWorld} {α β : Type}

/-- A change that is not of the core is one that others may make at any time. -/
theorem later_of_core (hcore : w'.core = w.core) : Later settings w w' :=
  ⟨moved_of_core hcore, fun ⟨current, h⟩ => ⟨current, h.congr hcore⟩⟩

instance : IsTrans ControllerWorld (company settings operation).rely where
  trans _ _ _ h h' := ⟨h.toMoved.trans h'.toMoved, fun hw => h'.orderly (h.orderly hw)⟩

/-- The others keep what an operation owes, and what it has come to. -/
theorem company_stable : Company.Stable (company settings operation)
    (fun (_ : ControllerReturn) => Resolves settings operation)
    (fun (_ : ThrownError) => Orderly settings) where
  owed _ _ _ h hlater := by
    refine ⟨hlater.orderly h.1, fun barrier hwaiting => ?_⟩
    exact (h.2 barrier ((hlater.mem_iff rfl).mp hwaiting)).imp_left (hlater.settled barrier true)
  returned _ _ _ h hlater := by
    obtain ⟨events, hlog, -⟩ := hlater.log
    exact ⟨hlater.orderly h.1, hlog ▸ went_append h.2⟩
  threw _ _ _ h hlater := hlater.orderly h

/-! ### The stages of an operation -/

/-- The operation has made no step. -/
structure Fresh (settings : ControllerSettings) (operation : ℕ) (w : ControllerWorld) : Prop where
  orderly : Orderly settings w
  unseen : ∀ event ∈ w.log, event.operation? ≠ some operation

/-- No completion is open, and those that the operation has waited for were confirmed. -/
structure Clear (settings : ControllerSettings) (operation : ℕ) (w : ControllerWorld) : Prop where
  orderly : Orderly settings w
  barrier : w.pendingCompletionBarrier = none
  through : ∀ barrier, .waiting operation barrier ∈ w.log → w.settled barrier = some true

/-- And the operation has worked. -/
structure Working (settings : ControllerSettings) (operation : ℕ) (w : ControllerWorld) : Prop
    extends Clear settings operation w where
  went : Went w.log operation

/-- In this stage the operation may wait for anything, and the others keep it there. -/
structure Steady (settings : ControllerSettings) (operation : ℕ) (P : ControllerWorld → Prop) :
    Prop where
  orderly : ∀ w, P w → Orderly settings w
  unblocked : ∀ w request, P w → Unblocked operation request w
  later : ∀ w w', P w → Later settings w w' → P w'

/-- As long as the operation has made no step, it may wait for anything. -/
theorem steady_fresh : Steady settings operation (Fresh settings operation) where
  orderly _ h := h.orderly
  unblocked _ _ h _ hwaiting := absurd rfl (h.unseen _ hwaiting)
  later _ _ h hlater := ⟨hlater.orderly h.orderly, fun event hmem hevent =>
    h.unseen event ((hlater.mem_iff hevent).mp hmem) hevent⟩

/-- A completion that was confirmed stays confirmed. -/
theorem Clear.later (h : Clear settings operation w) (hlater : Later settings w w') :
    Clear settings operation w' where
  orderly := hlater.orderly h.orderly
  barrier := by
    rcases hlater.barrier with hnone | hsame
    · exact hnone
    · rw [hsame, h.barrier]
  through barrier hwaiting :=
    hlater.settled barrier true (h.through barrier ((hlater.mem_iff rfl).mp hwaiting))

/-- Nothing the others do opens a completion behind a barrier that was passed. -/
theorem steady_clear : Steady settings operation (Clear settings operation) where
  orderly _ h := h.orderly
  unblocked _ _ h barrier hwaiting := .inl (h.through barrier hwaiting)
  later _ _ := Clear.later

/-- Nor does it while the operation works. -/
theorem steady_working : Steady settings operation (Working settings operation) where
  orderly _ h := h.orderly
  unblocked _ _ h barrier hwaiting := .inl (h.through barrier hwaiting)
  later _ _ h hlater := by
    obtain ⟨events, hlog, -⟩ := hlater.log
    exact ⟨h.toClear.later hlater, hlog ▸ went_append h.went⟩

/-! ### Parts that keep the stage -/

/-- From the one stage the part leads to the other, unless it throws. -/
abbrev Leads (settings : ControllerSettings) (operation : ℕ) (P Q : ControllerWorld → Prop)
    (x : ControllerM α) : Prop :=
  ∀ w, P w → (company settings operation).wp (fun _ => Q) (fun _ => Orderly settings) x w

variable {P Q R : ControllerWorld → Prop}

/-- From stage to stage. -/
theorem Leads.bind {x : ControllerM α} {f : α → ControllerM β}
    (hx : Leads settings operation P Q x) (hf : ∀ a, Leads settings operation Q R (f a)) :
    Leads settings operation P R (x >>= f) := fun w hw =>
  (Company.wp_bind x f).mpr (Company.wp_mono (hx w hw) (fun a w' hw' => hf a w' hw') fun _ _ h => h)

/-- A value is no stage. -/
theorem leads_pure (a : α) : Leads settings operation P P (pure a : ControllerM α) := fun _ h => h

namespace Steady

variable (hP : Steady settings operation P)
include hP

/-- An error leads nowhere. -/
theorem leads_throw (error : ThrownError) : Leads settings operation P Q (throw error : ControllerM α) :=
  fun w hw => hP.orderly w hw

/-- What an answer comes to is no stage. -/
theorem leads_settle (outcome : Except ThrownError α) :
    Leads settings operation P P (settle outcome : ControllerM α) := by
  cases outcome with
  | ok a => exact leads_pure a
  | error error => exact hP.leads_throw error

omit hP in
/-- The world is read. -/
theorem leads_get : Leads settings operation P P (get : ControllerM ControllerWorld) := fun _ h => h

/-- A request is waited for, and the others go on. -/
theorem leads_ask (request : ControllerRequest) :
    Leads settings operation P P (ask request : ControllerM request.Answer) := fun w hw =>
  ⟨⟨hP.orderly w hw, hP.unblocked w request hw⟩, fun w' _ hlater _ => hP.later w w' hw hlater⟩

/-- A change that is not of the core. -/
theorem leads_modify {f : ControllerWorld → ControllerWorld} (hf : ∀ w, (f w).core = w.core) :
    Leads settings operation P P (modify f : ControllerM PUnit) := fun w hw =>
  hP.later w (f w) hw (later_of_core (hf w))

/-! #### Waits before the work -/

/-- The signal is looked at in any stage. -/
theorem leads_throwIfAborted :
    Leads settings operation P P (throwIfAborted settings signal) :=
  leads_get.bind fun world => by
    rw [onlyIf]
    split
    · exact hP.leads_throw _
    · exact leads_pure ()

/-- And what a race came to. -/
theorem leads_afterRace (message : String) (raced : CommandRace Bool) :
    Leads settings operation P P (afterRace settings signal message raced) := by
  cases raced with
  | settled outcome => exact hP.leads_settle outcome
  | timedOut | cancelled => exact hP.leads_throw _

/-- A commit is waited for in any stage. -/
theorem leads_waitForCommit (threadHandle : ThreadHandle) :
    Leads settings operation P P (waitForCommit settings signal threadHandle) := by
  refine hP.leads_throwIfAborted.bind fun _ => (hP.leads_ask _).bind fun called =>
    (hP.leads_afterRace _ called).bind fun _ => leads_get.bind fun world => ?_
  rcases world.registry.registrationState threadHandle with error | _ | _
  · exact hP.leads_throw error
  · exact leads_pure ()
  · dsimp only
    cases world.registry.provisionalHandleToEntry.get? threadHandle with
    | none => exact hP.leads_throw _
    | some entry =>
      refine (hP.leads_ask _).bind fun raced => (hP.leads_afterRace _ raced).bind fun committed => ?_
      cases committed with
      | true => exact leads_pure ()
      | false => exact hP.leads_throw _

/-- So is a registration. -/
theorem leads_awaitRegistration (target : TurnTarget)
    (registrationState : Option ThreadRegistrationState) :
    Leads settings operation P P (awaitRegistration settings signal target registrationState) := by
  unfold awaitRegistration
  split
  · exact hP.leads_waitForCommit _
  · exact leads_pure ()

end Steady

/-! ### The barrier -/

/-- After the wait no completion is open: it finds none, or the one it finds is confirmed. -/
theorem leads_awaitPendingCompletion :
    Leads settings operation (Fresh settings operation) (Clear settings operation)
      (awaitPendingCompletion settings operation signal) := by
  intro w h
  rw [awaitPendingCompletion, Company.wp_bind, Company.wp_get]
  cases hbarrier : w.pendingCompletionBarrier with
  | none => exact ⟨h.orderly, hbarrier, fun barrier hwaiting => absurd rfl (h.unseen _ hwaiting)⟩
  | some barrier =>
    obtain ⟨current, hsound⟩ := h.orderly
    obtain ⟨o, rfl, rfl⟩ : ∃ o, current = some o ∧ o.barrier = barrier :=
      Option.map_eq_some_iff.mp (hsound.keeps.barrier.symm.trans hbarrier)
    obtain ⟨-, -, hinstalled⟩ := hsound.results.current o rfl
    dsimp only
    rw [throwIfAborted, Coroutine.bind_assoc, Company.wp_bind, Company.wp_get, Company.wp_bind,
      Company.wp_onlyIf]
    split
    · exact h.orderly
    rw [Company.wp_bind]
    -- the wait is this operation's first step
    have hunwent : ¬ Went w.log operation := by
      rintro (hmem | ⟨call, hmem⟩) <;> exact h.unseen _ hmem rfl
    have hwaiting : Orderly settings (w.record (.waiting operation o.barrier)) :=
      ⟨some o, hsound.recordStep rfl hunwent fun _ _ heq => by
        cases heq
        exact ⟨o.result, hinstalled⟩⟩
    have honly : ∀ barrier, .waiting operation barrier ∈ (w.record (.waiting operation o.barrier)).log →
        barrier = o.barrier := by
      intro barrier hmem
      rcases List.mem_append.mp hmem with hold | hnew
      · exact absurd rfl (h.unseen _ hold)
      · cases List.mem_singleton.mp hnew
        rfl
    refine ⟨⟨hwaiting, fun barrier hmem => .inr ⟨signal, by rw [honly barrier hmem]⟩⟩,
      fun w' raced hlater hanswer => ?_⟩
    have hwaited : Orderly settings (w'.record (.waited operation o.barrier)) := by
      obtain ⟨current', hsound'⟩ := hlater.orderly hwaiting
      exact ⟨current', hsound'.recordStep rfl trivial nofun⟩
    rcases raced with (error | committed) | _ | _
    · exact hwaited
    · cases committed with
      | false => exact hwaited
      | true =>
        have hsettled : w'.settled o.barrier = some true := by
          obtain ⟨raceEnd, answers, hanswer⟩ := hanswer
          cases raceEnd with
          | settled =>
            obtain ⟨committed, hcommitted, heq⟩ := Option.map_eq_some_iff.mp hanswer
            cases heq
            exact hcommitted
          | timedOut => cases hanswer
          | cancelled =>
            rw [ControllerWorld.answer] at hanswer
            split at hanswer <;> cases hanswer
        refine ⟨hwaited, ?_, fun barrier hmem => ?_⟩
        · -- a barrier that is settled is not pending any more
          obtain ⟨current', hsound'⟩ := hlater.orderly hwaiting
          show w'.pendingCompletionBarrier = none
          rcases hlater.barrier with hnone | hsame
          · exact hnone
          · obtain ⟨o', rfl, hsame'⟩ : ∃ o', current' = some o' ∧ o'.barrier = o.barrier :=
              Option.map_eq_some_iff.mp (hsound'.keeps.barrier.symm.trans (hsame.trans hbarrier))
            obtain ⟨-, hundecided, hinstalled'⟩ := hsound'.results.current o' rfl
            have hnone := hsound'.barriers.settled _ _ hinstalled'
            rw [hundecided, hsame', hsettled] at hnone
            cases hnone
        · have hmem : .waiting operation barrier ∈ w'.log := by
            rcases List.mem_append.mp hmem with hold | hnew
            · exact hold
            · cases List.mem_singleton.mp hnew
          rw [honly barrier ((hlater.mem_iff rfl).mp hmem)]
          exact hsettled
    · exact hwaited
    · exact hwaited


/-! ### The work -/

/-- While no completion is open, none is in the world. -/
theorem Clear.sound (h : Clear settings operation w) : Sound settings w none := by
  obtain ⟨current, hsound⟩ := h.orderly
  cases current with
  | none => exact hsound
  | some o =>
    have hbarrier := hsound.keeps.barrier
    rw [h.barrier] at hbarrier
    cases hbarrier

/-- The operation may work. -/
theorem Clear.through_log (h : Clear settings operation w) : Through w.log operation := by
  intro barrier hwaiting
  obtain ⟨result, hinstalled⟩ := h.sound.barriers.waiting operation barrier hwaiting
  refine ⟨result, hinstalled, ?_⟩
  rw [← h.sound.barriers.settled barrier result hinstalled]
  exact h.through barrier hwaiting

/-- The first step of an operation behind its barriers. -/
theorem Clear.record (h : Clear settings operation w) {event : ControllerEvent}
    (hevent : event = .preparing operation ∨ ∃ call, event = .called operation call) :
    Working settings operation (w.record event) := by
  have hallowed : Quiet w.log ∧ Through w.log operation := ⟨h.sound.quiet, h.through_log⟩
  have hrecord : Sound settings (w.record event) none := by
    obtain rfl | ⟨call, rfl⟩ := hevent
    · exact h.sound.recordStep rfl hallowed nofun
    · exact h.sound.recordStep rfl hallowed nofun
  have hself : event ∈ (w.record event).log := List.mem_append_right _ List.mem_cons_self
  refine ⟨⟨⟨none, hrecord⟩, h.barrier, fun barrier hwaiting => ?_⟩, ?_⟩
  · rcases List.mem_append.mp hwaiting with hold | hnew
    · exact h.through barrier hold
    · obtain rfl | ⟨call, rfl⟩ := hevent <;> cases List.mem_singleton.mp hnew
  · obtain rfl | ⟨call, rfl⟩ := hevent
    · exact .inl hself
    · exact .inr ⟨call, hself⟩

/-- The first call is where the work begins, if it has not begun with the preparation. -/
theorem leads_call (method : ControllerCall) :
    Leads settings operation (Clear settings operation) (Working settings operation)
      (call operation method) := fun w h =>
  steady_working.leads_ask (.call method) (w.record (.called operation method))
    (h.record (.inr ⟨method, rfl⟩))

/-- A later call. -/
theorem leads_nextCall (method : ControllerCall) :
    Leads settings operation (Working settings operation) (Working settings operation)
      (call operation method) :=
  fun w h => leads_call method w h.toClear

/-- While it works, an operation stays in this stage. -/
abbrev Works (settings : ControllerSettings) (operation : ℕ) (x : ControllerM α) : Prop :=
  Leads settings operation (Working settings operation) (Working settings operation) x

/-- What an answer comes to. -/
theorem works_settle (outcome : Except ThrownError α) :
    Works settings operation (settle outcome : ControllerM α) :=
  steady_working.leads_settle outcome

/-- The admission is work. -/
theorem works_admitBoundRuntime :
    Works settings operation (admitBoundRuntime settings operation) := by
  rw [admitBoundRuntime]
  split
  · exact steady_working.leads_throw _
  · refine (leads_nextCall .requireExisting).bind fun answer => (works_settle answer).bind fun lease => ?_
    refine Leads.bind (steady_working.leads_modify fun _ => rfl) fun _ => ?_
    exact (leads_nextCall (.bindExistingRuntime lease)).bind fun answer =>
      (works_settle answer).bind fun _ => (leads_nextCall (.assertBoundRuntimeCurrent lease)).bind
        fun answer => works_settle answer

/-- So is the initialization. -/
theorem works_initializeController :
    Works settings operation (initializeController settings operation) := by
  rw [initializeController]
  cases settings.classicPolicy with
  | managed => exact leads_pure ()
  | boundExisting =>
    refine Steady.leads_get.bind fun world => ?_
    cases world.boundAdmission with
    | some _ =>
      exact (steady_working.leads_ask .admission).bind fun outcome => works_settle outcome
    | none =>
      refine Leads.bind (steady_working.leads_modify fun _ => rfl) fun _ w h => ?_
      rw [Company.wp_bind, Company.wp_attempt]
      refine Company.wp_mono (works_admitBoundRuntime w h) (fun _ w' hw' => ?_) fun e w' hw' => ?_
      · show Working settings operation { w' with boundAdmission := some (some (.ok ())) }
        exact steady_working.later _ _ hw' (later_of_core rfl)
      · have hlater : Later settings w' { w' with boundAdmission := some (some (.error e)) } :=
          later_of_core rfl
        exact hlater.orderly hw'

/-- And the check of the runtime. -/
theorem works_assertBoundRuntimeCurrent :
    Works settings operation (assertBoundRuntimeCurrent settings operation) := by
  rw [assertBoundRuntimeCurrent]
  cases settings.classicPolicy with
  | managed => exact leads_pure ()
  | boundExisting =>
    refine Steady.leads_get.bind fun world => ?_
    cases world.boundRuntimeLease with
    | none => exact steady_working.leads_throw _
    | some lease =>
      cases settings.assertBoundRuntimeCurrent with
      | false => exact steady_working.leads_throw _
      | true =>
        exact (leads_nextCall (.assertBoundRuntimeCurrent lease)).bind fun answer =>
          works_settle answer

/-- With the preparation of the runtime an operation starts to work. -/
theorem leads_prepareRuntime :
    Leads settings operation (Clear settings operation) (Working settings operation)
      (prepareRuntime settings operation) := by
  intro w h
  rw [prepareRuntime, Company.wp_bind]
  have hworking : Working settings operation (w.record (.preparing operation)) :=
    h.record (.inl rfl)
  suffices hrest : Works settings operation _ from hrest _ hworking
  cases settings.classicPolicy with
  | managed =>
    exact (leads_nextCall .ensureStarted).bind fun answer => (works_settle answer).bind fun _ =>
      (leads_nextCall .connect).bind fun answer => (works_settle answer).bind fun _ =>
        (leads_nextCall .assertCurrentRuntime).bind fun answer => works_settle answer
  | boundExisting =>
    exact works_initializeController.bind fun _ => (leads_nextCall .connect).bind fun answer =>
      (works_settle answer).bind fun _ => works_assertBoundRuntimeCurrent

/-- A route is work. -/
theorem works_route (target : TurnTarget) : Works settings operation (route operation target) := by
  cases target with
  | thread threadHandle =>
    exact (leads_nextCall (.routeToThread threadHandle)).bind fun answer => works_settle answer
  | fresh => exact (leads_nextCall .routeFresh).bind fun answer => works_settle answer
  | project projectLocator =>
    exact (leads_nextCall (.routeToProject projectLocator)).bind fun answer => works_settle answer

/-! ### The operations -/

/-- An operation that has worked may resolve. -/
theorem Working.resolves (h : Working settings operation w) : Resolves settings operation w :=
  ⟨h.orderly, h.went⟩

/-- What the controller does after a result only adds to the log. -/
theorem went_afterResult {target : TurnTarget} {prompt : Text} {answer : ExecutorAnswer}
    {result : ResultId} {value : TurnResult} (h : Went w.log operation)
    (hexecute : w.execute settings target prompt answer = (.ok (result, value), w')) :
    Went (w'.afterResult target result value).log operation := by
  obtain ⟨⟨events, hlog, -⟩, -⟩ : Appends operation w w' := by
    have happends : Appends operation w (w.execute settings target prompt answer).2 :=
      appends_execute target prompt answer w
    rwa [hexecute] at happends
  have hwent : Went w'.log operation := hlog ▸ went_append h
  rw [afterResult]
  split
  · exact went_append hwent
  · exact hwent

/-- The turn of the executor. -/
theorem wp_executeStreaming (hfresh : DrawsOnce settings.randomUUID) {target : TurnTarget}
    (hvalid : ControllerWorld.ValidTarget settings target) (prompt : Text)
    (h : Working settings operation w) :
    (company settings operation).wp
      (fun result w' => Resolves settings operation (w'.afterResult target result.1 result.2))
      (fun _ => Orderly settings) (executeStreaming settings operation target prompt) w := by
  rw [executeStreaming, Company.wp_bind]
  refine Company.wp_mono (leads_nextCall (.executeStreaming target prompt) w h)
    (fun answer w' h' => ?_) fun _ _ h => h
  rw [Company.wp_bind, Company.wp_modifyGet]
  rcases hexecute : w'.execute settings target prompt answer with
    ⟨(error | _) | ⟨result, value⟩, w''⟩
  · obtain ⟨hsound, -⟩ := h'.sound.execute_error hfresh hexecute
    exact ⟨none, hsound⟩
  -- a turn that hangs is not answered
  · obtain ⟨hsound, hlog, hsettled, -⟩ := h'.sound.execute_error hfresh hexecute
    refine ⟨⟨⟨none, hsound⟩, fun barrier hwaiting => .inl ?_⟩, fun _ answer => nomatch answer⟩
    rw [hlog] at hwaiting
    rw [hsettled]
    exact h'.through barrier hwaiting
  · exact ⟨h'.sound.execute_ok hfresh hvalid hexecute, went_afterResult h'.went hexecute⟩

/-- What an operation closes over: a project is named by a locator that is a URL. -/
def ValidOperation (settings : ControllerSettings) : ControllerOperation → Prop
  | .executeTurn target _ _ => ControllerWorld.ValidTarget settings target
  | _ => True

/-- An operation that resolves has found no completion open, or one that was confirmed, and has
worked after it. -/
theorem leads_body (hfresh : DrawsOnce settings.randomUUID) {op : ControllerOperation}
    (hvalid : ValidOperation settings op) :
    Leads settings operation (Fresh settings operation) (Resolves settings operation)
      (body settings operation signal op) := by
  cases op with
  | executeTurn target registrationState prompt =>
    -- The parts of the body in order: up to the completion nothing is worked, and after it
    -- everything may be.
    refine (steady_fresh.leads_awaitRegistration target registrationState).bind fun _ =>
      leads_awaitPendingCompletion.bind fun _ => leads_prepareRuntime.bind fun _ =>
        (works_route target).bind fun _ => works_assertBoundRuntimeCurrent.bind fun _ w h => ?_
    rw [Company.wp_bind]
    refine Company.wp_mono (wp_executeStreaming hfresh hvalid prompt h) (fun result w' h' => ?_)
      fun _ _ h => h
    rw [afterResult] at h'
    rw [Company.wp_bind, Company.wp_onlyIf]
    -- Whether the turn leaves a completion open is decided by its result alone.
    split at h'
    · rename_i hcreated
      rw [if_pos hcreated]
      exact h'
    · rename_i hcreated
      rw [if_neg hcreated]
      exact h'
  | createProject name =>
    refine leads_awaitPendingCompletion.bind fun _ => leads_prepareRuntime.bind fun _ =>
      works_assertBoundRuntimeCurrent.bind fun _ => (leads_nextCall (.create name)).bind fun answer =>
        (works_settle answer).bind fun projectHandle w h => ?_
    exact h.resolves
  | recoverRuntime =>
    refine leads_awaitPendingCompletion.bind fun _ => steady_clear.leads_throwIfAborted.bind fun _ => ?_
    -- Recovery works only after both of its refusals.
    split
    · exact steady_clear.leads_throw _
    split
    · exact steady_clear.leads_throw _
    refine (leads_call .disconnect).bind fun answer => (works_settle answer).bind fun _ =>
      (leads_nextCall .restart).bind fun answer => (works_settle answer).bind fun _ =>
        (leads_nextCall .connect).bind fun answer => (works_settle answer).bind fun _ =>
          (leads_nextCall .assertCurrentRuntime).bind fun answer => (works_settle answer).bind
            fun _ w h => ?_
    exact h.resolves

end Discipline

end ThreadwireController

end Threadwire
