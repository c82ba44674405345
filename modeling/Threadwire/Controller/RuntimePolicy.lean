import Threadwire.Controller.BarrierDiscipline

/-!
# The runtime policy

What an operation may ask of the runtime depends on the policy. A managed runtime is started and
connected to before each turn; a bound one is only ever observed: it is admitted once, and from then
on every turn and every project creation is preceded by a check that it is the one that was
admitted. `Script` writes the calls of an operation down, and `follows_body` says that the calls
which an operation makes, whatever it is answered and whatever others do meanwhile, are the
beginning of a script.
-/

namespace Threadwire

namespace ControllerWorld

/-- The calls of collaborators, with the operations that made them. -/
def calls (w : ControllerWorld) : List (ℕ × ControllerCall) :=
  w.log.filterMap fun
    | .called operation call => some (operation, call)
    | _ => none

/-- The calls of one operation. -/
def callsOf (w : ControllerWorld) (operation : ℕ) : List ControllerCall :=
  w.calls.filterMap fun (operation', call) => if operation' = operation then some call else none

end ControllerWorld

namespace ThreadwireController

open Coroutine ControllerWorld

/-! ## The scripts -/

/-- The call that routes to a target. -/
def routeCall : TurnTarget → ControllerCall
  | .fresh => .routeFresh
  | .thread threadHandle => .routeToThread threadHandle
  | .project projectLocator => .routeToProject projectLocator

/-- How an operation prepares the runtime. Under the bound policy the lease is the admitted one, and
the operation that comes first admits it. -/
inductive Prepares : ClassicPolicy → RuntimeLease → List ControllerCall → Prop
  | managed (lease : RuntimeLease) :
      Prepares .managed lease [.ensureStarted, .connect, .assertCurrentRuntime]
  | bound (lease : RuntimeLease) :
      Prepares .boundExisting lease [.connect, .assertBoundRuntimeCurrent lease]
  | admitting (lease : RuntimeLease) :
      Prepares .boundExisting lease [.requireExisting, .bindExistingRuntime lease,
        .assertBoundRuntimeCurrent lease, .connect, .assertBoundRuntimeCurrent lease]

/-- The check before a mutation. -/
def recheck : ClassicPolicy → RuntimeLease → List ControllerCall
  | .managed, _ => []
  | .boundExisting, lease => [.assertBoundRuntimeCurrent lease]

/-- The calls of an operation from its first to its last. -/
def Script (policy : ClassicPolicy) (lease : RuntimeLease) :
    ControllerOperation → List ControllerCall → Prop
  | .executeTurn target _ prompt, calls => ∃ preparation, Prepares policy lease preparation ∧
      calls = preparation ++ [routeCall target] ++ recheck policy lease ++
        [.executeStreaming target prompt]
  | .createProject name, calls => ∃ preparation, Prepares policy lease preparation ∧
      calls = preparation ++ recheck policy lease ++ [.create name]
  | .recoverRuntime, calls =>
      calls = match policy with
        | .managed => [.disconnect, .restart, .connect, .assertCurrentRuntime]
        | .boundExisting => []

/-- The calls are the beginning of a script. -/
def Scripted (policy : ClassicPolicy) (op : ControllerOperation) (calls : List ControllerCall) :
    Prop :=
  ∃ lease script, Script policy lease op script ∧ calls <+: script

/-- The operation has made its calls from the first to the last. -/
def Completes (policy : ClassicPolicy) (op : ControllerOperation) (calls : List ControllerCall) :
    Prop :=
  ∃ lease, Script policy lease op calls

/-- The lease that a call is about. -/
def leaseOf : ControllerCall → Option RuntimeLease
  | .bindExistingRuntime lease | .assertBoundRuntimeCurrent lease => some lease
  | _ => none

/-- What the calls have to do with the admission: there is one, it sets the lease, and every call is
about that lease. -/
structure Admitted (w : ControllerWorld) : Prop where
  bound : ∀ operation call lease, (operation, call) ∈ w.calls → leaseOf call = some lease →
    w.boundRuntimeLease = some lease
  unbegun : w.boundAdmission = none →
    w.boundRuntimeLease = none ∧ w.admittedElsewhere = false ∧
      ∀ operation, (operation, .requireExisting) ∉ w.calls
  elsewhere : w.admittedElsewhere = true →
    w.boundRuntimeLease = none ∧ ∀ operation, (operation, .requireExisting) ∉ w.calls
  once : (w.calls.map Prod.snd).count .requireExisting ≤ 1

/-! ## The others -/

section Company

variable (settings : ControllerSettings) (operation : ℕ) (op : ControllerOperation)

/-- What happens while an operation waits: no operation calls anything, and the lease stays once it
is set; while an operation admits, nobody else does. -/
structure Aside (w w' : ControllerWorld) : Prop where
  calls : w'.calls = w.calls
  admitted : Admitted w → Admitted w'
  lease : Admitted w → ∀ lease, w.boundRuntimeLease = some lease → w'.boundRuntimeLease = some lease
  admission : w.boundAdmission ≠ none → w.admittedElsewhere = false →
    w'.boundAdmission ≠ none ∧ w'.admittedElsewhere = false ∧
      w'.boundRuntimeLease = w.boundRuntimeLease

/-- The operation keeps to its script. -/
structure KeepsScript (w : ControllerWorld) : Prop where
  admitted : Admitted w
  scripted : Scripted settings.classicPolicy op (w.callsOf operation)

/-- The operation has made its calls. -/
structure EndsScript (w : ControllerWorld) : Prop where
  admitted : Admitted w
  completes : Completes settings.classicPolicy op (w.callsOf operation)

/-- The company of an operation, as far as the policy goes. -/
def policyCompany : Company ControllerWorld ControllerRequest ControllerRequest.Answer where
  rely := Aside
  answers _ _ _ := True
  owed _ := KeepsScript settings operation op

end Company

section Policy

variable {settings : ControllerSettings} {operation : ℕ} {op : ControllerOperation}
  {signal : Option SignalId} {w w' : ControllerWorld} {α β : Type}

/-- Whatever others do, the calls of the operation are its own. -/
theorem Aside.callsOf (h : Aside w w') (operation : ℕ) :
    w'.callsOf operation = w.callsOf operation := by
  rw [ControllerWorld.callsOf, h.calls]
  rfl

/-- Others go on, and on. -/
theorem Aside.trans {w'' : ControllerWorld} (h : Aside w w') (h' : Aside w' w'') : Aside w w'' where
  calls := h'.calls.trans h.calls
  admitted hw := h'.admitted (h.admitted hw)
  lease hw lease hlease := h'.lease (h.admitted hw) lease (h.lease hw lease hlease)
  admission hbegun helsewhere := by
    obtain ⟨hbegun', helsewhere', hlease⟩ := h.admission hbegun helsewhere
    obtain ⟨hbegun'', helsewhere'', hlease'⟩ := h'.admission hbegun' helsewhere'
    exact ⟨hbegun'', helsewhere'', hlease'.trans hlease⟩

instance : IsTrans ControllerWorld (policyCompany settings operation op).rely where
  trans _ _ _ := Aside.trans

/-- A change that the policy has nothing to do with. -/
theorem aside_of_eq (hcalls : w'.calls = w.calls)
    (hlease : w'.boundRuntimeLease = w.boundRuntimeLease)
    (hadmission : w'.boundAdmission = w.boundAdmission)
    (helsewhere : w'.admittedElsewhere = w.admittedElsewhere) : Aside w w' where
  calls := hcalls
  admitted h := by
    refine ⟨?_, ?_, ?_, ?_⟩
    · rw [hcalls, hlease]
      exact h.bound
    · rw [hcalls, hlease, hadmission, helsewhere]
      exact h.unbegun
    · rw [hcalls, hlease, helsewhere]
      exact h.elsewhere
    · rw [hcalls]
      exact h.once
  lease _ _ h := hlease.trans h
  admission hbegun h := ⟨hadmission ▸ hbegun, helsewhere.trans h, hlease⟩

/-- The operation keeps to its script meanwhile. -/
theorem KeepsScript.aside (h : KeepsScript settings operation op w) (haside : Aside w w') :
    KeepsScript settings operation op w' :=
  ⟨haside.admitted h.admitted, by rw [haside.callsOf]; exact h.scripted⟩

/-- And has made its calls, if it had. -/
theorem EndsScript.aside (h : EndsScript settings operation op w) (haside : Aside w w') :
    EndsScript settings operation op w' :=
  ⟨haside.admitted h.admitted, by rw [haside.callsOf]; exact h.completes⟩

/-- Who has made all calls has kept to the script. -/
theorem EndsScript.keepsScript (h : EndsScript settings operation op w) :
    KeepsScript settings operation op w := by
  obtain ⟨hadmitted, lease, hscript⟩ := h
  exact ⟨hadmitted, lease, _, hscript, List.prefix_refl _⟩

/-- What is said of the script survives what others do. -/
theorem policyCompany_stable : Company.Stable (policyCompany settings operation op)
    (fun (_ : ControllerReturn) => EndsScript settings operation op)
    (fun (_ : ThrownError) => KeepsScript settings operation op) where
  owed _ _ _ h haside := h.aside haside
  returned _ _ _ h haside := h.aside haside
  threw _ _ _ h haside := h.aside haside

/-! ## The stages of an operation -/

/-- The operation has made these calls. -/
structure Made (operation : ℕ) (past : List ControllerCall) (w : ControllerWorld) : Prop where
  admitted : Admitted w
  calls : w.callsOf operation = past

/-- The operation admits the runtime, and has not got its lease. -/
structure Admitting (operation : ℕ) (past : List ControllerCall) (w : ControllerWorld) : Prop
    extends Made operation past w where
  begun : w.boundAdmission ≠ none
  here : w.admittedElsewhere = false
  unbound : w.boundRuntimeLease = none

/-- The calls that were made were made. -/
theorem Made.aside {past : List ControllerCall} (h : Made operation past w) (haside : Aside w w') :
    Made operation past w' :=
  ⟨haside.admitted h.admitted, (haside.callsOf operation).trans h.calls⟩

/-- The admission is still this operation's. -/
theorem Admitting.aside {past : List ControllerCall} (h : Admitting operation past w)
    (haside : Aside w w') : Admitting operation past w' := by
  obtain ⟨hbegun, hhere, hlease⟩ := haside.admission h.begun h.here
  exact ⟨h.toMade.aside haside, hbegun, hhere, hlease.trans h.unbound⟩

/-- Calls that are the beginning of a script. -/
theorem Made.keepsScript {past : List ControllerCall} (h : Made operation past w)
    (hscripted : Scripted settings.classicPolicy op past) : KeepsScript settings operation op w :=
  ⟨h.admitted, h.calls ▸ hscripted⟩

/-- A call is recorded last. -/
theorem calls_record_called (w : ControllerWorld) (operation : ℕ) (call : ControllerCall) :
    (w.record (.called operation call)).calls = w.calls ++ [(operation, call)] := by
  rw [calls, ControllerWorld.record, List.filterMap_append]
  rfl

/-- It is the last one of its operation. -/
theorem callsOf_record_called (w : ControllerWorld) (operation : ℕ) (call : ControllerCall) :
    (w.record (.called operation call)).callsOf operation = w.callsOf operation ++ [call] := by
  rw [callsOf, calls_record_called, List.filterMap_append]
  simp [callsOf]

/-- A call other than the first of an admission, about the lease that is set. -/
theorem Admitted.record (h : Admitted w) {call : ControllerCall} (hcall : call ≠ .requireExisting)
    (hlease : ∀ lease, leaseOf call = some lease → w.boundRuntimeLease = some lease) :
    Admitted (w.record (.called operation call)) := by
  have hmem : ∀ {operation' call'},
      (operation', call') ∈ (w.record (.called operation call)).calls →
      (operation', call') ∈ w.calls ∨ call' = call := by
    intro operation' call' hmem
    rw [calls_record_called, List.mem_append, List.mem_singleton] at hmem
    exact hmem.imp_right fun heq => congrArg Prod.snd heq
  have hrequire : ∀ {operation'}, (operation', ControllerCall.requireExisting) ∉ w.calls →
      (operation', ControllerCall.requireExisting) ∉ (w.record (.called operation call)).calls :=
    fun hnot hrequire => (hmem hrequire).elim hnot fun heq => hcall heq.symm
  refine ⟨fun operation' call' lease hcall' hof => ?_, fun hunbegun => ?_, fun helsewhere => ?_, ?_⟩
  · rcases hmem hcall' with hold | rfl
    · exact h.bound operation' call' lease hold hof
    · exact hlease lease hof
  · obtain ⟨hnone, hhere, hnot⟩ := h.unbegun hunbegun
    exact ⟨hnone, hhere, fun operation' => hrequire (hnot operation')⟩
  · obtain ⟨hnone, hnot⟩ := h.elsewhere helsewhere
    exact ⟨hnone, fun operation' => hrequire (hnot operation')⟩
  · rw [calls_record_called, List.map_append, List.count_append]
    have hzero : List.count ControllerCall.requireExisting [call] = 0 :=
      List.count_eq_zero.mpr fun hmem => hcall (List.mem_singleton.mp hmem).symm
    exact (congrArg (_ + ·) hzero).trans_le h.once

/-- From the one stage the part leads to the other, unless it throws, and keeps to the script. -/
abbrev Carries (settings : ControllerSettings) (operation : ℕ) (op : ControllerOperation)
    (P Q : ControllerWorld → Prop) (x : ControllerM α) : Prop :=
  ∀ w, P w → (policyCompany settings operation op).wp (fun _ => Q)
    (fun _ => KeepsScript settings operation op) x w

variable {P Q R : ControllerWorld → Prop} {past : List ControllerCall}

/-- From stage to stage. -/
theorem Carries.bind {x : ControllerM α} {f : α → ControllerM β}
    (hx : Carries settings operation op P Q x) (hf : ∀ a, Carries settings operation op Q R (f a)) :
    Carries settings operation op P R (x >>= f) := fun w hw =>
  (Company.wp_bind x f).mpr (Company.wp_mono (hx w hw) (fun a w' hw' => hf a w' hw') fun _ _ h => h)

/-- What is done after a part that settles with what it is answered. -/
theorem Carries.settled {γ : Type} {x : ControllerM γ} {f : γ → Except ThrownError α}
    {g : α → ControllerM β} (hx : Carries settings operation op P Q (x >>= fun c => settle (f c)))
    (hg : ∀ a, Carries settings operation op Q R (g a)) :
    Carries settings operation op P R (x >>= fun c => settle (f c) >>= g) := by
  rw [← Coroutine.bind_assoc]
  exact hx.bind hg

/-- A value calls nothing. -/
theorem carries_pure (a : α) : Carries settings operation op P P (pure a : ControllerM α) :=
  fun _ h => h

/-- Neither does a look at the world. -/
theorem carries_get : Carries settings operation op P P (get : ControllerM ControllerWorld) :=
  fun _ h => h

section Kept

variable (hscripted : Scripted settings.classicPolicy op past)
include hscripted

/-- An error ends the script where it is. -/
theorem carries_throw (error : ThrownError) :
    Carries settings operation op (Made operation past) Q (throw error : ControllerM α) :=
  fun _ h => h.keepsScript hscripted

/-- What an answer comes to. -/
theorem carries_settle (outcome : Except ThrownError α) :
    Carries settings operation op (Made operation past) (Made operation past)
      (settle outcome : ControllerM α) := by
  cases outcome with
  | ok a => exact carries_pure a
  | error error => exact carries_throw hscripted error

/-- A request that is no call. -/
theorem carries_ask (request : ControllerRequest) :
    Carries settings operation op (Made operation past) (Made operation past)
      (ask request : ControllerM request.Answer) := fun _ h =>
  ⟨h.keepsScript hscripted, fun _ _ haside _ => h.aside haside⟩

omit hscripted in
/-- A change that the policy has nothing to do with. -/
theorem carries_modify {f : ControllerWorld → ControllerWorld} (hf : ∀ w, Aside w (f w)) :
    Carries settings operation op (Made operation past) (Made operation past)
      (modify f : ControllerM PUnit) :=
  fun w h => h.aside (hf w)

/-! ### Before the work -/

/-- The signal is looked at without a call. -/
theorem carries_throwIfAborted :
    Carries settings operation op (Made operation past) (Made operation past)
      (throwIfAborted settings signal) :=
  carries_get.bind fun world => by
    rw [onlyIf]
    split
    · exact carries_throw hscripted _
    · exact carries_pure ()

/-- A race is settled without one. -/
theorem carries_afterRace (message : String) (raced : CommandRace Bool) :
    Carries settings operation op (Made operation past) (Made operation past)
      (afterRace settings signal message raced) := by
  cases raced with
  | settled outcome => exact carries_settle hscripted outcome
  | timedOut | cancelled => exact carries_throw hscripted _

/-- A commit is waited for without one. -/
theorem carries_waitForCommit (threadHandle : ThreadHandle) :
    Carries settings operation op (Made operation past) (Made operation past)
      (waitForCommit settings signal threadHandle) := by
  refine (carries_throwIfAborted hscripted).bind fun _ =>
    (carries_ask hscripted _).bind fun called =>
    (carries_afterRace hscripted _ called).bind fun _ => carries_get.bind fun world => ?_
  rcases world.registry.registrationState threadHandle with error | _ | _
  · exact carries_throw hscripted error
  · exact carries_pure ()
  · dsimp only
    cases world.registry.provisionalHandleToEntry.get? threadHandle with
    | none => exact carries_throw hscripted _
    | some entry =>
      refine (carries_ask hscripted _).bind fun raced =>
        (carries_afterRace hscripted _ raced).bind fun committed => ?_
      cases committed with
      | true => exact carries_pure ()
      | false => exact carries_throw hscripted _

/-- So is a registration. -/
theorem carries_awaitRegistration (target : TurnTarget)
    (registrationState : Option ThreadRegistrationState) :
    Carries settings operation op (Made operation past) (Made operation past)
      (awaitRegistration settings signal target registrationState) := by
  unfold awaitRegistration
  split
  · exact carries_waitForCommit hscripted _
  · exact carries_pure ()

omit hscripted in
/-- An event that is no call. -/
theorem aside_record {event : ControllerEvent} (hevent : ∀ operation call,
    event ≠ .called operation call) (w : ControllerWorld) : Aside w (w.record event) := by
  refine aside_of_eq ?_ rfl rfl rfl
  rw [calls, ControllerWorld.record, List.filterMap_append]
  cases event with
  | called operation call => exact absurd rfl (hevent operation call)
  | _ => exact List.append_nil _

/-- So is the completion that is pending. -/
theorem carries_awaitPendingCompletion :
    Carries settings operation op (Made operation past) (Made operation past)
      (awaitPendingCompletion settings operation signal) := by
  refine carries_get.bind fun world => ?_
  cases world.pendingCompletionBarrier with
  | none => exact carries_pure ()
  | some barrier =>
    refine (carries_throwIfAborted hscripted).bind fun _ =>
      Carries.bind (carries_modify (aside_record (by simp))) fun _ =>
        (carries_ask hscripted _).bind fun raced =>
          Carries.bind (carries_modify (aside_record (by simp))) fun _ =>
            (carries_afterRace hscripted _ raced).bind fun committed => ?_
    rw [onlyIf]
    split
    · exact carries_throw hscripted _
    · exact carries_pure ()

end Kept

/-! ### What others do meanwhile -/

/-- A barrier that is settled is nothing to the policy. -/
theorem aside_settleCompletionBarrier (w : ControllerWorld) (result : ResultId) (committed : Bool) :
    Aside w (w.settleCompletionBarrier result committed) := by
  rw [settleCompletionBarrier]
  split
  · dsimp only
    split
    · exact aside_of_eq rfl rfl rfl rfl
    · refine aside_of_eq ?_ rfl rfl rfl
      rw [calls, List.filterMap_append]
      exact List.append_nil _
  · exact aside_of_eq rfl rfl rfl rfl

/-- An admission that is no operation's begins. -/
theorem aside_initializeController (hunbegun : w.boundAdmission = none) :
    Aside w { w with boundAdmission := some none, admittedElsewhere := true } where
  calls := rfl
  admitted h := by
    obtain ⟨hunbound, -, hnot⟩ := h.unbegun hunbegun
    exact ⟨h.bound, (by rintro ⟨⟩), fun _ => ⟨hunbound, hnot⟩, h.once⟩
  lease _ _ h := h
  admission hbegun := absurd hunbegun hbegun

/-- It ends. -/
theorem aside_initialized (helsewhere : w.admittedElsewhere = true) (lease : Option RuntimeLease)
    (outcome : Except ThrownError Unit) :
    Aside w { w with
      boundRuntimeLease := lease
      boundAdmission := some (some outcome)
      admittedElsewhere := false } where
  calls := rfl
  admitted h := by
    refine ⟨fun operation call lease' hcall hof => ?_, by rintro ⟨⟩, by rintro ⟨⟩, h.once⟩
    have hbound := h.bound operation call lease' hcall hof
    rw [(h.elsewhere helsewhere).1] at hbound
    cases hbound
  lease h lease' hlease := by
    rw [(h.elsewhere helsewhere).1] at hlease
    cases hlease
  admission _ hhere := by
    rw [helsewhere] at hhere
    cases hhere

/-! ### Calls -/

/-- The operation waits for the answer of a call, and the others keep what it has made. -/
theorem carries_call {call : ControllerCall}
    (hscripted : Scripted settings.classicPolicy op (past ++ [call]))
    (hcall : call ≠ .requireExisting) :
    Carries settings operation op
      (fun w => Made operation past w ∧
        ∀ lease, leaseOf call = some lease → w.boundRuntimeLease = some lease)
      (Made operation (past ++ [call])) (ThreadwireController.call operation call) := by
  rintro w ⟨h, hlease⟩
  have hmade : Made operation (past ++ [call]) (w.record (.called operation call)) :=
    ⟨h.admitted.record hcall hlease,
      (callsOf_record_called w operation call).trans (by rw [h.calls])⟩
  exact ⟨hmade.keepsScript hscripted, fun w' answer haside _ => hmade.aside haside⟩

/-- A call that is about no lease. -/
theorem carries_plainCall {call : ControllerCall}
    (hscripted : Scripted settings.classicPolicy op (past ++ [call]))
    (hcall : call ≠ .requireExisting) (hlease : leaseOf call = none) :
    Carries settings operation op (Made operation past) (Made operation (past ++ [call]))
      (ThreadwireController.call operation call) := fun w h =>
  carries_call hscripted hcall w ⟨h, fun lease hof => by cases hlease.symm.trans hof⟩

/-- And its answer. -/
theorem carries_plainAnswer {call : ControllerCall} {f : call.Answer → Except ThrownError α}
    (hscripted : Scripted settings.classicPolicy op (past ++ [call]))
    (hcall : call ≠ .requireExisting) (hlease : leaseOf call = none) :
    Carries settings operation op (Made operation past) (Made operation (past ++ [call]))
      (ThreadwireController.call operation call >>= fun answer => settle (f answer)) :=
  (carries_plainCall hscripted hcall hlease).bind fun answer => carries_settle hscripted (f answer)

/-- A call about the lease that is set, and its answer. -/
theorem carries_leaseAnswer {call : ControllerCall} {f : call.Answer → Except ThrownError α}
    {lease : RuntimeLease} (hscripted : Scripted settings.classicPolicy op (past ++ [call]))
    (hlease : leaseOf call = some lease) :
    Carries settings operation op
      (fun w => Made operation past w ∧ w.boundRuntimeLease = some lease)
      (Made operation (past ++ [call]))
      (ThreadwireController.call operation call >>= fun answer => settle (f answer)) := by
  have hcall : call ≠ .requireExisting := by
    rintro rfl
    cases hlease
  refine Carries.bind (fun w h => carries_call hscripted hcall w ⟨h.1, fun lease' hof => ?_⟩)
    fun answer => carries_settle hscripted (f answer)
  exact h.2.trans (hlease.symm.trans hof)

/-- The calls about a lease are about the one that is set. -/
theorem Made.bound (h : Made operation past w) {call : ControllerCall} (hcall : call ∈ past)
    {lease : RuntimeLease} (hlease : leaseOf call = some lease) :
    w.boundRuntimeLease = some lease := by
  rw [← h.calls, callsOf, List.mem_filterMap] at hcall
  obtain ⟨⟨operation', call'⟩, hmem, hsome⟩ := hcall
  dsimp only at hsome
  split_ifs at hsome
  obtain rfl := Option.some.inj hsome
  exact h.admitted.bound operation' call' lease hmem hlease

/-! ### The preparation -/

/-- The beginning of a beginning. -/
theorem Scripted.of_beginning {policy : ClassicPolicy} {calls calls' : List ControllerCall}
    (h : Scripted policy op calls) (hbeginning : calls' <+: calls) : Scripted policy op calls' := by
  obtain ⟨lease, script, hscript, hcalls⟩ := h
  exact ⟨lease, script, hscript, hbeginning.trans hcalls⟩

/-- The check that the runtime is the one that was admitted. -/
theorem carries_assertBoundRuntimeCurrent (hpolicy : settings.classicPolicy = .boundExisting)
    {Of : RuntimeLease → Prop}
    (hof : ∀ w lease, Made operation past w → w.boundRuntimeLease = some lease → Of lease)
    (hscripted : Scripted settings.classicPolicy op past)
    (hchecked : ∀ lease, Of lease →
      Scripted settings.classicPolicy op (past ++ [.assertBoundRuntimeCurrent lease])) :
    Carries settings operation op (Made operation past)
      (fun w => ∃ lease, Of lease ∧ Made operation (past ++ [.assertBoundRuntimeCurrent lease]) w)
      (assertBoundRuntimeCurrent settings operation) := by
  intro w h
  rw [assertBoundRuntimeCurrent, hpolicy]
  refine (Company.wp_bind _ _).mpr (Company.wp_get.mpr ?_)
  cases hbound : w.boundRuntimeLease with
  | none => exact h.keepsScript hscripted
  | some lease =>
    cases settings.assertBoundRuntimeCurrent with
    | false => exact h.keepsScript hscripted
    | true =>
      have hlease := hof w lease h hbound
      exact Company.wp_mono
        (carries_leaseAnswer (f := id) (hchecked lease hlease) rfl w ⟨h, hbound⟩)
        (fun _ _ hmade => ⟨lease, hlease, hmade⟩) fun _ _ hkeeps => hkeeps

/-- What the first operation does. -/
def admits (lease : RuntimeLease) : List ControllerCall :=
  [.requireExisting, .bindExistingRuntime lease, .assertBoundRuntimeCurrent lease]

/-- The first call of the admission. -/
theorem carries_requireExisting
    (hscripted : Scripted settings.classicPolicy op [.requireExisting]) :
    Carries settings operation op
      (fun w => Admitting operation [] w ∧ ∀ operation, (operation, .requireExisting) ∉ w.calls)
      (Admitting operation [.requireExisting]) (call operation .requireExisting) := by
  rintro w ⟨h, hnot⟩
  have hcalls := calls_record_called w operation .requireExisting
  have hadmitted : Admitted (w.record (.called operation .requireExisting)) := by
    refine ⟨fun operation' call lease hcall hof => ?_, fun hnone => absurd hnone h.begun,
      fun helsewhere => ?_, ?_⟩
    · rw [hcalls, List.mem_append, List.mem_singleton] at hcall
      rcases hcall with hold | hnew
      · exact h.admitted.bound operation' call lease hold hof
      · obtain rfl := congrArg Prod.snd hnew
        cases hof
    · have hhere : w.admittedElsewhere = true := helsewhere
      rw [h.here] at hhere
      cases hhere
    -- Nobody has asked for the runtime before: this is the one time.
    · have hzero : (w.calls.map Prod.snd).count .requireExisting = 0 := by
        refine List.count_eq_zero.mpr fun hmem => ?_
        obtain ⟨⟨operation', call⟩, hcall, rfl⟩ := List.mem_map.mp hmem
        exact hnot operation' hcall
      rw [hcalls, List.map_append, List.count_append, hzero]
      exact Nat.le_refl 1
  have hadmitting : Admitting operation [.requireExisting]
      (w.record (.called operation .requireExisting)) :=
    ⟨⟨hadmitted, (callsOf_record_called w operation _).trans (by rw [h.calls]; rfl)⟩, h.begun,
      h.here,
      h.unbound⟩
  exact ⟨hadmitting.keepsScript hscripted, fun w' answer haside _ => hadmitting.aside haside⟩

/-- The lease of the admission is set. -/
theorem Admitting.bind {lease : RuntimeLease} (h : Admitting operation past w) :
    Made operation past { w with boundRuntimeLease := some lease } := by
  refine ⟨⟨fun operation' call lease' hcall hof => ?_, fun hnone => absurd hnone h.begun,
    fun helsewhere => ?_, h.admitted.once⟩, h.calls⟩
  · have hbound := h.admitted.bound operation' call lease' hcall hof
    rw [h.unbound] at hbound
    cases hbound
  · have hhere : w.admittedElsewhere = true := helsewhere
    rw [h.here] at hhere
    cases hhere

/-- The admission. -/
theorem carries_admitBoundRuntime
    (hscripted : ∀ lease, Scripted settings.classicPolicy op (admits lease)) :
    Carries settings operation op
      (fun w => Admitting operation [] w ∧ ∀ operation, (operation, .requireExisting) ∉ w.calls)
      (fun w => ∃ lease, Made operation (admits lease) w)
        (admitBoundRuntime settings operation) := by
  have hrequire : Scripted settings.classicPolicy op [.requireExisting] :=
    (hscripted ⟨0, ⟨0, ""⟩⟩).of_beginning ⟨_, rfl⟩
  have hempty : Scripted settings.classicPolicy op [] := hrequire.of_beginning List.nil_prefix
  rw [admitBoundRuntime]
  split
  · exact fun w h => h.1.keepsScript hempty
  refine (carries_requireExisting hrequire).bind fun answer => ?_
  cases answer with
  | error error => exact fun w h => h.keepsScript hrequire
  | ok lease =>
    have hbound : Scripted settings.classicPolicy op [.requireExisting,
      .bindExistingRuntime lease] :=
      (hscripted lease).of_beginning ⟨_, rfl⟩
    -- The lease is set between the answer and the next call.
    have hafter : Carries settings operation op
        (fun w => Made operation [.requireExisting] w ∧ w.boundRuntimeLease = some lease)
        (Made operation (admits lease)) (do
          settle (← call operation (.bindExistingRuntime lease))
          settle (← call operation (.assertBoundRuntimeCurrent lease))) := by
      refine Carries.settled (f := id) (carries_leaseAnswer hbound rfl) fun _ => fun w h => ?_
      have hcall : .bindExistingRuntime lease ∈ [ControllerCall.requireExisting] ++
          [.bindExistingRuntime lease] := by simp
      exact carries_leaseAnswer (f := id) (hscripted lease) rfl w ⟨h, h.bound hcall rfl⟩
    exact fun w h => Company.wp_mono (hafter { w with boundRuntimeLease := some lease }
      ⟨h.bind, rfl⟩)
      (fun _ _ hmade => ⟨lease, hmade⟩) fun _ _ hkeeps => hkeeps

/-- What the calls have to do with the admission is not changed when it ends. -/
theorem Made.setAdmission (h : Made operation past w) (outcome : Except ThrownError Unit) :
    Made operation past { w with boundAdmission := some (some outcome) } :=
  ⟨⟨h.admitted.bound, nofun, h.admitted.elsewhere, h.admitted.once⟩, h.calls⟩

/-- What an operation of the bound policy has called before it connects: nothing, or the
admission. -/
def Begins (calls : List ControllerCall) : Prop :=
  calls = [] ∨ ∃ lease, calls = admits lease

/-- `initialize`, for the bound policy. -/
theorem carries_initializeController (hpolicy : settings.classicPolicy = .boundExisting)
    (hscripted : ∀ lease, Scripted settings.classicPolicy op (admits lease)) :
    Carries settings operation op (Made operation [])
      (fun w => ∃ calls, Begins calls ∧ Made operation calls w)
      (initializeController settings operation) := by
  have hempty : Scripted settings.classicPolicy op [] :=
    (hscripted ⟨0, ⟨0, ""⟩⟩).of_beginning List.nil_prefix
  intro w h
  rw [initializeController, hpolicy]
  refine (Company.wp_bind _ _).mpr (Company.wp_get.mpr ?_)
  -- The admission is shared: whoever comes first makes it, the others await its outcome.
  cases hadmission : w.boundAdmission with
  | some _ =>
    exact Company.wp_mono (Carries.bind (carries_ask hempty ControllerRequest.admission)
      (fun outcome => carries_settle hempty outcome) w h)
      (fun _ _ hmade => ⟨[], .inl rfl, hmade⟩) fun _ _ hkeeps => hkeeps
  | none =>
    obtain ⟨hunbound, hhere, hnot⟩ := h.admitted.unbegun hadmission
    have hadmitting : Admitting operation [] { w with boundAdmission := some none } :=
      ⟨⟨⟨h.admitted.bound, by rintro ⟨⟩, h.admitted.elsewhere, h.admitted.once⟩, h.calls⟩,
        by rintro ⟨⟩, hhere, hunbound⟩
    refine (Company.wp_bind _ _).mpr ((Company.wp_modify _).mpr ((Company.wp_bind _ _).mpr
      ((Company.wp_attempt _).mpr ?_)))
    have hadmits := carries_admitBoundRuntime hscripted _ ⟨hadmitting, hnot⟩
    refine Company.wp_mono hadmits (fun _ w' hmade => ?_) fun error w' hkeeps => ?_
    · obtain ⟨lease, hmade⟩ := hmade
      exact ⟨admits lease, .inr ⟨lease, rfl⟩, hmade.setAdmission _⟩
    · exact ⟨⟨hkeeps.admitted.bound, by rintro ⟨⟩, hkeeps.admitted.elsewhere,
        hkeeps.admitted.once⟩, hkeeps.scripted⟩

/-- A runtime that the policy is bound to is connected to, and checked. -/
theorem carries_connect (hpolicy : settings.classicPolicy = .boundExisting)
    (hscripted : ∀ lease preparation, Prepares .boundExisting lease preparation →
      Scripted settings.classicPolicy op preparation) {begun : List ControllerCall}
    {Of : RuntimeLease → Prop} (hof : ∀ w lease, Made operation (begun ++ [.connect]) w →
      w.boundRuntimeLease = some lease → Of lease) (hexists : ∃ lease, Of lease)
    (hprepares : ∀ lease, Of lease → Prepares .boundExisting lease
      (begun ++ [.connect] ++ [.assertBoundRuntimeCurrent lease])) :
    Carries settings operation op (Made operation begun)
      (fun w => ∃ lease preparation, Prepares .boundExisting lease preparation ∧
        Made operation preparation w) (do
      settle (← call operation .connect)
      assertBoundRuntimeCurrent settings operation) := by
  obtain ⟨lease, hlease⟩ := hexists
  have hscript := hscripted lease _ (hprepares lease hlease)
  have hconnect := hscript.of_beginning (List.prefix_append _ _)
  refine Carries.settled (f := id) (carries_plainAnswer hconnect (by simp) rfl) fun _ => ?_
  intro w h
  refine Company.wp_mono (carries_assertBoundRuntimeCurrent hpolicy hof hconnect
    (fun lease hlease => hscripted lease _ (hprepares lease hlease)) w h) ?_
    fun _ _ hkeeps => hkeeps
  rintro _ w' ⟨lease, hlease, hmade⟩
  exact ⟨lease, _, hprepares lease hlease, hmade⟩

/-- The preparation of a turn or of a project. -/
theorem carries_prepareRuntime
    (hscripted : ∀ lease preparation, Prepares settings.classicPolicy lease preparation →
      Scripted settings.classicPolicy op preparation) :
    Carries settings operation op (Made operation [])
      (fun w => ∃ lease preparation, Prepares settings.classicPolicy lease preparation ∧
        Made operation preparation w) (prepareRuntime settings operation) := by
  refine Carries.bind (carries_modify (aside_record (by simp))) fun _ => ?_
  cases hpolicy : settings.classicPolicy with
  | managed =>
    have hprepares := Prepares.managed ⟨0, ⟨0, ""⟩⟩
    have hscript := hscripted _ _ (hpolicy ▸ hprepares)
    refine Carries.settled (f := id)
      (carries_plainAnswer (hscript.of_beginning ⟨_, rfl⟩) (by simp) rfl)
      fun _ => Carries.settled (f := id)
        (carries_plainAnswer (hscript.of_beginning ⟨_, rfl⟩) (by simp) rfl) fun _ => ?_
    intro w h
    refine Company.wp_mono (carries_plainAnswer (f := id) hscript (by simp) rfl w h)
      (fun _ _ hmade => ⟨_, _, hprepares, hmade⟩) fun _ _ hkeeps => hkeeps
  | boundExisting =>
    have hbound : ∀ lease preparation, Prepares .boundExisting lease preparation →
        Scripted settings.classicPolicy op preparation := fun lease preparation hprepares =>
      hscripted lease preparation (hpolicy ▸ hprepares)
    refine (carries_initializeController hpolicy fun lease =>
      (hbound lease _ (.admitting lease)).of_beginning ⟨_, rfl⟩).bind fun _ => ?_
    -- The operation has found the runtime admitted, or has just admitted it.
    rintro w ⟨calls, rfl | ⟨lease, rfl⟩, h⟩
    · have hof : ∀ w lease, Made operation ([] ++ [.connect]) w → w.boundRuntimeLease = some lease →
          True := fun _ _ _ _ => trivial
      exact carries_connect hpolicy hbound hof ⟨⟨0, ⟨0, ""⟩⟩, trivial⟩
        (fun lease _ => .bound lease) w h
    · refine carries_connect hpolicy hbound (fun w' lease' h' hlease => ?_) ⟨lease, rfl⟩
        (fun lease' hlease => ?_) w h
      · have hcall : .bindExistingRuntime lease ∈ admits lease ++ [.connect] := by simp [admits]
        exact Option.some.inj ((h'.bound hcall rfl).symm.trans hlease)
      · subst hlease
        exact .admitting lease

/-! ### The operations -/

/-- The check before a mutation. -/
theorem carries_recheck {lease : RuntimeLease}
    (hprepared : settings.classicPolicy = .boundExisting →
      .assertBoundRuntimeCurrent lease ∈ past)
    (hscripted : Scripted settings.classicPolicy op
      (past ++ recheck settings.classicPolicy lease)) :
    Carries settings operation op (Made operation past)
      (Made operation (past ++ recheck settings.classicPolicy lease))
      (assertBoundRuntimeCurrent settings operation) := by
  cases hpolicy : settings.classicPolicy with
  | managed =>
    rw [assertBoundRuntimeCurrent, hpolicy, recheck, List.append_nil]
    exact carries_pure ()
  | boundExisting =>
    rw [hpolicy, recheck] at hscripted
    intro w h
    have hof : ∀ w lease', Made operation past w → w.boundRuntimeLease = some lease' →
        lease = lease' := fun w lease' h' hlease =>
      Option.some.inj ((h'.bound (hprepared hpolicy) rfl).symm.trans hlease)
    refine Company.wp_mono (carries_assertBoundRuntimeCurrent hpolicy hof ?_ ?_ w h) ?_
      fun _ _ hkeeps => hkeeps
    · rw [hpolicy]
      exact hscripted.of_beginning (List.prefix_append _ _)
    · rintro lease' rfl
      rw [hpolicy]
      exact hscripted
    · rintro _ w' ⟨lease', rfl, hmade⟩
      exact hmade

/-- The route to the target. -/
theorem carries_route {target : TurnTarget}
    (hscripted : Scripted settings.classicPolicy op (past ++ [routeCall target])) :
    Carries settings operation op (Made operation past)
      (Made operation (past ++ [routeCall target]))
      (route operation target) := by
  cases target <;> exact carries_plainAnswer (f := id) hscripted (by simp [routeCall]) rfl

/-- What the executor does to the world is nothing to the policy. -/
theorem aside_execute (target : TurnTarget) (prompt : Text) (answer : ExecutorAnswer)
    (w : ControllerWorld) : Aside w (w.execute settings target prompt answer).2 := by
  rw [execute]
  rcases hexecuted : TurnExecutor.executeStreaming (w.turnCall settings target prompt answer)
    answer.fuel { registry := w.registry } with ⟨outcome, run⟩
  cases outcome with
  | error interrupt => exact aside_of_eq rfl rfl rfl rfl
  | ok value =>
    refine aside_of_eq ?_ rfl rfl rfl
    rw [calls, List.filterMap_append]
    exact List.append_nil _

/-- The turn of the executor. -/
theorem carries_executeStreaming {target : TurnTarget} {prompt : Text}
    (hscripted : Scripted settings.classicPolicy op (past ++ [.executeStreaming target prompt])) :
    Carries settings operation op (Made operation past)
      (Made operation (past ++ [.executeStreaming target prompt]))
      (executeStreaming settings operation target prompt) := by
  refine (carries_plainCall hscripted (by simp) rfl).bind fun answer => ?_
  intro w h
  refine (Company.wp_bind _ _).mpr ((Company.wp_modifyGet _).mpr ?_)
  have hmade := h.aside (@aside_execute settings target prompt answer w)
  rcases (w.execute settings target prompt answer).1 with (error | _) | result
  · exact hmade.keepsScript hscripted
  · exact ⟨hmade.keepsScript hscripted, fun _ never => never.elim⟩
  · exact hmade

/-- A part that makes the last call of the script. -/
theorem Made.endsScript {calls : List ControllerCall} {lease : RuntimeLease}
    (h : Made operation calls w)
    (hscript : Script settings.classicPolicy lease op calls) : EndsScript settings operation op w :=
  ⟨h.admitted, lease, by rw [h.calls]; exact hscript⟩

/-- The beginning of a script. -/
theorem Script.scripted {policy : ClassicPolicy} {lease : RuntimeLease}
    {calls script : List ControllerCall}
    (h : Script policy lease op script) (hbeginning : calls <+: script) :
    Scripted policy op calls :=
  ⟨lease, script, h, hbeginning⟩

/-- There is a preparation under every policy. -/
theorem exists_prepares (policy : ClassicPolicy) :
    ∃ lease preparation, Prepares policy lease preparation := by
  cases policy with
  | managed => exact ⟨⟨0, ⟨0, ""⟩⟩, _, .managed _⟩
  | boundExisting => exact ⟨⟨0, ⟨0, ""⟩⟩, _, .bound _⟩

/-- Every operation starts with no calls. -/
theorem scripted_nil (policy : ClassicPolicy) (op : ControllerOperation) :
    Scripted policy op [] := by
  obtain ⟨lease, preparation, hprepares⟩ := exists_prepares policy
  cases op with
  | executeTurn | createProject =>
    exact ⟨lease, _, ⟨preparation, hprepares, rfl⟩, List.nil_prefix⟩
  | recoverRuntime => exact ⟨lease, _, rfl, List.nil_prefix⟩

/-- The preparation mentions the lease that it leaves. -/
theorem Prepares.checked {policy : ClassicPolicy} {lease : RuntimeLease}
    {preparation : List ControllerCall} (h : Prepares policy lease preparation)
    (hpolicy : policy = .boundExisting) : .assertBoundRuntimeCurrent lease ∈ preparation := by
  subst hpolicy
  cases h <;> simp

/-- A turn: prepare, check, route, execute. -/
theorem carries_executeTurn (target : TurnTarget)
    (registrationState : Option ThreadRegistrationState) (prompt : Text) :
    Carries settings operation (.executeTurn target registrationState prompt) (Made operation [])
      (EndsScript settings operation (.executeTurn target registrationState prompt))
      (executeTurn settings operation signal target registrationState prompt) := by
  have hscript : ∀ lease preparation, Prepares settings.classicPolicy lease preparation →
      Script settings.classicPolicy lease (.executeTurn target registrationState prompt)
        (preparation ++ [routeCall target] ++ recheck settings.classicPolicy lease ++
          [.executeStreaming target prompt]) := fun lease preparation hprepares =>
    ⟨preparation, hprepares, rfl⟩
  have hempty := scripted_nil settings.classicPolicy (.executeTurn target registrationState prompt)
  refine (carries_awaitRegistration hempty target registrationState).bind fun _ =>
    (carries_awaitPendingCompletion hempty).bind fun _ =>
      (carries_prepareRuntime fun lease preparation hprepares => ?_).bind fun _ => ?_
  · refine (hscript lease preparation hprepares).scripted ?_
    simp only [List.append_assoc, List.prefix_append]
  rintro w ⟨lease, preparation, hprepares, h⟩
  have hwhole := (hscript lease preparation hprepares).scripted (List.prefix_refl _)
  have hchecked := hwhole.of_beginning (List.prefix_append _ _)
  refine Carries.bind (carries_route (hchecked.of_beginning (List.prefix_append _ _))) (fun _ =>
    Carries.bind (carries_recheck (fun hpolicy => ?_) hchecked) fun _ =>
      Carries.bind (carries_executeStreaming hwhole) fun result => ?_) w h
  -- The preparation has checked the runtime already, under this lease.
  · exact List.mem_append_left _ (hprepares.checked hpolicy)
  · refine Carries.bind (Q := Made operation _) ?_ fun _ => fun w' h' =>
      h'.endsScript (hscript lease preparation hprepares)
    rw [onlyIf]
    split
    · refine carries_modify fun w' => aside_of_eq ?_ rfl rfl rfl
      rw [calls, installCompletionBarrier, List.filterMap_append]
      exact List.append_nil _
    · exact carries_pure ()

/-- A project: prepare, check, create. -/
theorem carries_createProject (name : Text) :
    Carries settings operation (.createProject name) (Made operation [])
      (EndsScript settings operation (.createProject name))
      (createProject settings operation signal name) := by
  have hscript : ∀ lease preparation, Prepares settings.classicPolicy lease preparation →
      Script settings.classicPolicy lease (.createProject name)
        (preparation ++ recheck settings.classicPolicy lease ++ [.create name]) :=
    fun lease preparation hprepares => ⟨preparation, hprepares, rfl⟩
  have hempty := scripted_nil settings.classicPolicy (.createProject name)
  refine (carries_awaitPendingCompletion hempty).bind fun _ =>
    (carries_prepareRuntime fun lease preparation hprepares => ?_).bind fun _ => ?_
  · refine (hscript lease preparation hprepares).scripted ?_
    simp only [List.append_assoc, List.prefix_append]
  rintro w ⟨lease, preparation, hprepares, h⟩
  have hwhole := (hscript lease preparation hprepares).scripted (List.prefix_refl _)
  have hchecked := hwhole.of_beginning (List.prefix_append _ _)
  refine Carries.bind (carries_recheck hprepares.checked hchecked)
    (fun _ => Carries.settled (f := id) (carries_plainAnswer hwhole (by simp) rfl)
      fun projectHandle => ?_) w h
  exact fun w' h' => h'.endsScript (hscript lease preparation hprepares)

/-- A recovery: prepare, and no mutation to check for. -/
theorem carries_recoverRuntime :
    Carries settings operation .recoverRuntime (Made operation [])
      (EndsScript settings operation .recoverRuntime)
      (recoverRuntime settings operation signal) := by
  have hempty := scripted_nil settings.classicPolicy .recoverRuntime
  refine (carries_awaitPendingCompletion hempty).bind fun _ =>
    (carries_throwIfAborted hempty).bind fun _ => ?_
  split
  · exact carries_throw hempty _
  split
  · exact carries_throw hempty _
  rename_i hbound _
  have hpolicy : settings.classicPolicy = .managed := by
    cases hpolicy : settings.classicPolicy with
    | managed => rfl
    | boundExisting => exact absurd hpolicy hbound
  have hscript : Script settings.classicPolicy ⟨0, ⟨0, ""⟩⟩ .recoverRuntime
      [.disconnect, .restart, .connect, .assertCurrentRuntime] := by rw [hpolicy, Script]
  have hwhole := hscript.scripted (List.prefix_refl _)
  refine Carries.settled (f := id)
    (carries_plainAnswer (hwhole.of_beginning ⟨_, rfl⟩) (by simp) rfl)
    fun _ => Carries.settled (f := id)
      (carries_plainAnswer (hwhole.of_beginning ⟨_, rfl⟩) (by simp) rfl) fun _ =>
        Carries.settled (f := id) (carries_plainAnswer (hwhole.of_beginning ⟨_, rfl⟩) (by simp) rfl)
          fun _ => Carries.settled (f := id) (carries_plainAnswer hwhole (by simp) rfl) fun _ => ?_
  exact fun w h => h.endsScript hscript

/-- An operation keeps to its script to the end. -/
theorem carries_body (operation : ℕ) (signal : Option SignalId) (op : ControllerOperation) :
    Carries settings operation op (Made operation []) (EndsScript settings operation op)
      (body settings operation signal op) := by
  cases op with
  | executeTurn target registrationState prompt =>
    exact carries_executeTurn target registrationState prompt
  | createProject name => exact carries_createProject name
  | recoverRuntime => exact carries_recoverRuntime

end Policy

end ThreadwireController

end Threadwire
