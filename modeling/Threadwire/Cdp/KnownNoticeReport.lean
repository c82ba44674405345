import Threadwire.Cdp.KnownNoticeOnce

/-!
# A click that did not settle is reported

A call of `dismissKnownFreshNotice` rejects when its operation has ended, or when its signal was
aborted. Either way the operation sends nothing more, so what the call reads of `possibleInput` when
it rejects is true where a mouse event was sent, at any time.
-/

namespace Threadwire

namespace SessionSystem

variable {α : Type} {s t : SessionSystem α}

/-- Connecting starts no operation. -/
theorem operations_connect : s.connect.operations = s.operations := by
  unfold connect
  split
  · rfl
  · split <;> rfl

/-- A connection that settles starts no operation. -/
theorem operations_settle {stage : ConnectionStage} {outcome : Except ThrownError Unit}
    (h : s.settle stage outcome = some t) : t.operations = s.operations := by
  cases stage <;> cases outcome <;> simp only [settle] at h
  case attaching.ok => split at h <;> cases h <;> rfl
  case initializing.ok => split at h <;> cases h <;> rfl
  case discovering.ok => cases h
  all_goals
    cases h
    rfl

/-- A discovery starts no operation. -/
theorem operations_discovered (lease : RuntimeLease) (targetId : String) :
    (s.discovered lease targetId).operations = s.operations := by
  unfold discovered
  split <;> rfl

/-- What an input makes of an operation: its listener's error comes with an abort of its signal, and
its race is won by its own promise or, where its listener has run, by the invalidation. -/
structure OperationMoves (input : SessionInput α) (operation : ℕ) (op op' : SessionOperation α) :
    Prop where
  signal : op'.signal = op.signal
  abortError : op'.abortError = op.abortError ∨
    ∃ signal reason, input = .abort signal reason ∧ op.signal = some signal
  race : op'.race = op.race ∨ (∃ outcome, input = .operationSettled operation outcome) ∨
    input = .invalidated operation ∧ op.abortError.isSome = true

/-- An operation whose other fields change. -/
theorem getElem?_setOperation {operation : ℕ} {op : SessionOperation α} {number : ℕ}
    {previous : SessionOperation α} (op' : SessionOperation α) (hop : s.operations[operation]? = some op)
    (hprevious : s.operations[number]? = some previous) :
    (number = operation ∧ previous = op ∧
        (s.setOperation operation op').operations[number]? = some op') ∨
      number ≠ operation ∧ (s.setOperation operation op').operations[number]? = some previous := by
  by_cases heq : number = operation
  · subst heq
    refine .inl ⟨rfl, Option.some.inj (hprevious.symm.trans hop), ?_⟩
    exact List.getElem?_set_self (List.getElem?_eq_some_iff.mp hop).1
  · refine .inr ⟨heq, ?_⟩
    rw [setOperation, List.getElem?_set_ne (Ne.symm heq), hprevious]

/-- What an input of the manager can do to an operation. -/
theorem step_operation {input : SessionInput α} (hstep : s.step input = some t) {number : ℕ}
    {op : SessionOperation α} (hop : s.operations[number]? = some op) :
    ∃ op', t.operations[number]? = some op' ∧ OperationMoves input number op op' := by
  -- Most inputs leave the operations alone.
  have hsame : t.operations = s.operations →
      ∃ op', t.operations[number]? = some op' ∧ OperationMoves input number op op' :=
    fun heq => ⟨op, by rw [heq, hop], rfl, .inl rfl, .inl rfl⟩
  cases input with
  | connect =>
    simp only [step] at hstep
    split at hstep <;> cases hstep
    exact hsame operations_connect
  | disconnect =>
    simp only [step] at hstep
    split at hstep <;> cases hstep
    exact hsame rfl
  | settle outcome =>
    simp only [step] at hstep
    split at hstep
    · exact hsame (operations_settle hstep)
    · cases hstep
  | discovered targetId =>
    simp only [step] at hstep
    split at hstep <;> cases hstep
    exact hsame (operations_discovered _ _)
  | disconnectEvent session =>
    simp only [step] at hstep
    split at hstep <;> cases hstep
    exact hsame rfl
  | changeRuntime next =>
    cases hstep
    exact hsame rfl
  | run kind session lease signal =>
    cases hstep
    unfold runSessionOperation at hsame ⊢
    split at hsame
    · exact hsame rfl
    · -- A new operation is put behind the others.
      refine ⟨op, ?_, rfl, .inl rfl, .inl rfl⟩
      exact (List.getElem?_append_left (List.getElem?_eq_some_iff.mp hop).1).trans hop
  | operationSettled operation outcome =>
    simp only [step] at hstep
    split at hstep <;> cases hstep
    rename_i settled hsettled
    -- A callback that settles does so in the race of its own operation.
    rcases getElem?_setOperation { settled with race := some (settled.race.getD outcome) } hsettled
      hop with ⟨rfl, rfl, hnew⟩ | ⟨-, hold⟩
    · exact ⟨_, hnew, rfl, .inl rfl, .inr (.inl ⟨outcome, rfl⟩)⟩
    · exact ⟨op, hold, rfl, .inl rfl, .inl rfl⟩
  | abort signal reason =>
    simp only [step] at hstep
    split at hstep <;> cases hstep
    · exact hsame rfl
    have hoperations : (s.abort signal reason).operations[number]? =
        some (if op.listens signal then
          { op with abortError := some (abortedError reason) } else op) := by
      rw [abort, List.getElem?_map]
      have hinvalidate : (s.invalidateSession signal).operations = s.operations := by
        unfold invalidateSession
        split <;> rfl
      simp [hop]
    refine ⟨_, hoperations, ?_⟩
    split
    · -- An abort reaches the operations that listen to its signal.
      rename_i hlistens
      refine ⟨rfl, .inr ⟨signal, reason, rfl, ?_⟩, .inl rfl⟩
      simp only [SessionOperation.listens, Bool.and_eq_true, beq_iff_eq] at hlistens
      exact hlistens.1.2
    · exact ⟨rfl, .inl rfl, .inl rfl⟩
  | invalidated operation =>
    simp only [step] at hstep
    split at hstep
    swap
    · cases hstep
    rename_i invalidated hinvalidated
    split at hstep <;> cases hstep
    rename_i error herror
    -- The invalidation wins the race of its operation with the error that its listener caught.
    rcases getElem?_setOperation
      { invalidated with race := some (invalidated.race.getD (.error error)) } hinvalidated hop
      with ⟨rfl, rfl, hnew⟩ | ⟨-, hold⟩
    · exact ⟨_, hnew, rfl, .inl rfl, .inr (.inr ⟨rfl, by rw [herror]; rfl⟩)⟩
    · exact ⟨op, hold, rfl, .inl rfl, .inl rfl⟩
  | resume operation =>
    simp only [step] at hstep
    split at hstep
    swap
    · cases hstep
    rename_i resumed hresumed
    split at hstep <;> cases hstep
    rcases getElem?_setOperation { resumed with finished := true } hresumed hop
      with ⟨rfl, rfl, hnew⟩ | ⟨-, hold⟩
    · exact ⟨_, hnew, rfl, .inl rfl, .inl rfl⟩
    · exact ⟨op, hold, rfl, .inl rfl, .inl rfl⟩

end SessionSystem

namespace NoticeSystem

open Coroutine ChromeRemoteInterfaceSession

/-! ## Operations that are over -/

/-- The operation of the call sends nothing more: it has ended, or its signal is aborted. -/
def Over (pool : MutationGuardedChromeRemoteInterfaceSession.SessionPool NoticeWorld)
    (call : DismissalCall) : Prop :=
  (∃ outcome, pool.running[call.place]? = some (.done outcome)) ∨
    .aborted call.signal ∈ pool.state.log

/-- The operation of the call has sent a mouse event. -/
def Clicked (pool : MutationGuardedChromeRemoteInterfaceSession.SessionPool NoticeWorld)
    (call : DismissalCall) : Prop :=
  ∃ command, .sent call.place (.dispatchMouseEvent command) ∈ pool.state.log

/-- The operation of the call was called with the signal that the manager hands on. -/
def CalledWith (options : ℕ → NoticeOptions)
    (pool : MutationGuardedChromeRemoteInterfaceSession.SessionPool NoticeWorld)
    (call : DismissalCall) : Prop :=
  .called call.place .dismissKnownFreshNotice (rawMutationSignal options call.manager call.signal) ∈
    pool.state.log

/-- A place is called once. -/
theorem Kept.called_unique {world : SessionWorld NoticeWorld} (h : Kept world) {place : ℕ}
    {method method' : SessionMethodName} {signal signal' : Option OperationSignal}
    (hcalled : .called place method signal ∈ world.log)
    (hcalled' : .called place method' signal' ∈ world.log) : signal = signal' := by
  obtain ⟨past, future, hsplit⟩ := List.append_of_mem hcalled
  rw [hsplit] at hcalled'
  rcases List.mem_append.mp hcalled' with hpast | hrest
  · exact absurd hpast ((h.lawful past _ future hsplit).called place method signal rfl _ _)
  rcases List.mem_cons.mp hrest with heq | hfuture
  · cases heq
    rfl
  · refine absurd hfuture (h.lawful.not_after hsplit fun before hmem hlaw => ?_)
    exact hlaw.called place method' signal' rfl _ _ hmem

variable {options : ℕ → NoticeOptions} {call : DismissalCall}
  {pool pool' : MutationGuardedChromeRemoteInterfaceSession.SessionPool NoticeWorld}

/-- An operation that is over stays over. -/
theorem Over.step (h : Over pool call) (hstep : PoolStep pool pool') : Over pool' call :=
  h.imp (fun ⟨outcome, hdone⟩ => ⟨outcome, (hstep.ended _ _ hdone).1⟩) fun hmem =>
    hstep.grown.subset hmem

/-- What is over does not click. -/
theorem Over.clicked (h : Over pool call) (hcalled : CalledWith options pool call)
    (hstep : PoolStep pool pool') (hclicked : Clicked pool' call) : Clicked pool call := by
  obtain ⟨command, hsent⟩ := hclicked
  rcases h with ⟨outcome, hdone⟩ | haborted
  · exact ⟨command, (hstep.ended _ _ hdone).2 _ hsent⟩
  obtain ⟨entries, hlog⟩ := hstep.grown
  rw [← hlog] at hsent
  rcases List.mem_append.mp hsent with hsent | hsent
  · exact ⟨command, hsent⟩
  -- the signal is aborted, so the law forbids the event
  obtain ⟨before, after, rfl⟩ := List.append_of_mem hsent
  have hlaw := (hstep.safe.kept.lawful (pool.state.log ++ before) _ after
    (by rw [← hlog, List.append_assoc])).sent _ _ rfl
  obtain ⟨method, signal, hraw, hunaborted⟩ := hlaw.2.1
  have hraw' : .called call.place method (some signal) ∈ pool'.state.log := by
    rw [← hlog, ← List.append_assoc]
    exact List.mem_append_left _ hraw
  have hsignal := hstep.safe.kept.called_unique hraw' (hstep.grown.subset hcalled)
  unfold rawMutationSignal at hsignal
  split at hsignal <;> cases hsignal
  exact absurd (List.mem_append_left before haborted) hunaborted

/-! ## The calls -/

/-- What holds of a call. -/
structure CallHolds (options : ℕ → NoticeOptions) (s : NoticeSystem) (number : ℕ)
    (call : DismissalCall) : Prop where
  called : CalledWith options s.pool call
  operation : ∃ op, (s.managers call.manager).operations[call.operation]? = some op ∧
    op.signal = some call.signal ∧
    (op.abortError.isSome = true → .aborted call.signal ∈ s.pool.state.log) ∧
    (op.race.isSome = true → Over s.pool call)
  reported : ∀ error, .rejected number error ∈ s.events →
    Over s.pool call ∧ (Clicked s.pool call → .uncertain number call.lease ∈ s.events)

/-- What holds in every state. -/
structure SystemSafe (options : ℕ → NoticeOptions) (s : NoticeSystem) : Prop where
  pool : PoolSafe s.pool
  calls : ∀ (number : ℕ) (call : DismissalCall), s.calls[number]? = some call →
    CallHolds options s number call
  distinct : ∀ (number number' : ℕ) (call call' : DismissalCall), s.calls[number]? = some call →
    s.calls[number']? = some call' → call.manager = call'.manager →
    call.operation = call'.operation → number = number'
  known : ∀ number error, .rejected number error ∈ s.events → number < s.calls.length

variable {s s' : NoticeSystem}

/-- A step that starts no call. -/
structure Steps (s s' : NoticeSystem) : Prop where
  pool : PoolStep s.pool s'.pool
  calls : s'.calls = s.calls
  operation : ∀ (number : ℕ) (call : DismissalCall) (op : SessionOperation Unit),
    s.calls[number]? = some call →
    (s.managers call.manager).operations[call.operation]? = some op →
    ∃ op', (s'.managers call.manager).operations[call.operation]? = some op' ∧
      op'.signal = op.signal ∧
      (op'.abortError = op.abortError ∨ .aborted call.signal ∈ s'.pool.state.log) ∧
      (op'.race = op.race ∨ Over s'.pool call)
  events : s.events ⊆ s'.events
  rejected : ∀ number error, .rejected number error ∈ s'.events →
    .rejected number error ∈ s.events ∨ ∃ call, s.calls[number]? = some call ∧ Over s'.pool call ∧
      (Clicked s'.pool call → .uncertain number call.lease ∈ s'.events)

/-- A step that starts no call keeps the system safe. -/
theorem SystemSafe.steps (h : SystemSafe options s) (hstep : Steps s s') : SystemSafe options s' := by
  have hcalls := hstep.calls
  refine ⟨hstep.pool.safe, fun number call hcall => ?_, ?_, fun number error hmem => ?_⟩
  · rw [hcalls] at hcall
    have hold := h.calls number call hcall
    obtain ⟨op, hop, hsignal, habort, hrace⟩ := hold.operation
    obtain ⟨op', hop', hsignal', habort', hrace'⟩ := hstep.operation number call op hcall hop
    refine ⟨hstep.pool.grown.subset hold.called, ⟨op', hop', hsignal'.trans hsignal, fun hsome => ?_,
      fun hsome => ?_⟩, fun error hmem => ?_⟩
    · rcases habort' with heq | hmem
      · exact hstep.pool.grown.subset (habort (heq ▸ hsome))
      · exact hmem
    · rcases hrace' with heq | hover
      · exact (hrace (heq ▸ hsome)).step hstep.pool
      · exact hover
    · rcases hstep.rejected number error hmem with hmem | ⟨call', hcall', hrest⟩
      · obtain ⟨hover, hreport⟩ := hold.reported error hmem
        exact ⟨hover.step hstep.pool,
          fun hclicked => hstep.events (hreport (hover.clicked hold.called hstep.pool hclicked))⟩
      · cases Option.some.inj (hcall.symm.trans hcall')
        exact hrest
  · rw [hcalls]
    exact h.distinct
  · rw [hcalls]
    rcases hstep.rejected number error hmem with hmem | ⟨call, hcall, -⟩
    · exact h.known number error hmem
    · exact (List.getElem?_eq_some_iff.mp hcall).1

/-- A step of the sessions. -/
theorem SystemSafe.movePool (h : SystemSafe options s) (hpool : PoolStep s.pool pool') :
    SystemSafe options { s with pool := pool' } :=
  h.steps ⟨hpool, rfl, fun _ _ op _ hop => ⟨op, hop, rfl, .inl rfl, .inl rfl⟩, List.Subset.refl _,
    fun _ _ hmem => .inl hmem⟩

/-- A pool that does not move makes a step. -/
theorem PoolSafe.stays (h : PoolSafe pool) : PoolStep pool pool :=
  ⟨h, List.prefix_rfl, Nat.le_refl _, fun _ _ hdone => ⟨hdone, fun _ hmem => hmem⟩⟩

/-- The manager that was set. -/
theorem setManager_self (manager : ℕ) (value : SessionSystem Unit) :
    (s.setManager manager value).managers manager = value := Function.update_self _ _ _

/-- The other managers. -/
theorem setManager_of_ne {manager other : ℕ} (hne : other ≠ manager) (value : SessionSystem Unit) :
    (s.setManager manager value).managers other = s.managers other :=
  Function.update_of_ne hne _ _

/-- A step of a manager. A race of one of its calls is won only where the call is over. -/
theorem SystemSafe.moveManager (h : SystemSafe options s) (manager : ℕ) (input : SessionInput Unit)
    (habort : ∀ signal reason, input ≠ .abort signal reason)
    (hrace : ∀ (number : ℕ) (call : DismissalCall), s.calls[number]? = some call → call.manager = manager →
      (∃ outcome, input = .operationSettled call.operation outcome) → Over s.pool call) :
    SystemSafe options (s.moveManager manager input) := by
  refine h.steps ⟨h.pool.stays, rfl, fun number call op hcall hop => ?_, List.Subset.refl _,
    fun _ _ hmem => .inl hmem⟩
  obtain ⟨op₀, hop₀, -, haborted, -⟩ := (h.calls number call hcall).operation
  cases Option.some.inj (hop.symm.trans hop₀)
  by_cases hmanager : call.manager = manager
  swap
  · refine ⟨op, ?_, rfl, .inl rfl, .inl rfl⟩
    rw [NoticeSystem.moveManager, setManager_of_ne hmanager, hop]
  subst hmanager
  rw [NoticeSystem.moveManager, setManager_self]
  cases hstep : (s.managers call.manager).step input with
  | none => exact ⟨op, hop, rfl, .inl rfl, .inl rfl⟩
  | some t =>
    obtain ⟨op', hop', hsignal, habortError, hrace'⟩ := SessionSystem.step_operation hstep hop
    refine ⟨op', hop', hsignal, ?_, ?_⟩
    · rcases habortError with heq | ⟨signal, reason, rfl, -⟩
      · exact .inl heq
      · exact absurd rfl (habort signal reason)
    · rcases hrace' with heq | hsettled | ⟨-, hsome⟩
      · exact .inl heq
      · exact .inr (hrace number call hcall rfl hsettled)
      · exact .inr (.inr (haborted hsome))

/-- An abort reaches the managers and the sessions. -/
theorem SystemSafe.abort (h : SystemSafe options s) (signal : OperationSignal)
    (reason : Option ThrownError) :
    SystemSafe options { s with
      managers := fun manager =>
        ((s.managers manager).step (.abort signal reason)).getD (s.managers manager)
      pool := s.pool.move (MutationGuardedChromeRemoteInterfaceSession.abort signal reason) } := by
  have haside : Aside s.pool.state
      (MutationGuardedChromeRemoteInterfaceSession.abort signal reason s.pool.state) :=
    aside_abort signal reason
  have hpool := h.pool.move haside
  refine h.steps ⟨hpool, rfl, fun number call op hcall hop => ?_, List.Subset.refl _,
    fun _ _ hmem => .inl hmem⟩
  show ∃ op', (((s.managers call.manager).step (.abort signal reason)).getD _).operations[_]? = _ ∧ _
  cases hstep : (s.managers call.manager).step (.abort signal reason) with
  | none => exact ⟨op, hop, rfl, .inl rfl, .inl rfl⟩
  | some t =>
    -- The manager's operation and the session's hear the same signal.
    obtain ⟨op₀, hop₀, hsignal, -, -⟩ := (h.calls number call hcall).operation
    cases Option.some.inj (hop.symm.trans hop₀)
    obtain ⟨op', hop', hsignal', habortError, hrace⟩ := SessionSystem.step_operation hstep hop
    refine ⟨op', hop', hsignal', ?_, ?_⟩
    · rcases habortError with heq | ⟨signal', reason', heq, hsignal''⟩
      · exact .inl heq
      · cases heq
        rw [hsignal] at hsignal''
        cases hsignal''
        -- The abort is in the log, now or from before.
        refine .inr ?_
        show SessionLogEntry.aborted call.signal ∈
          (MutationGuardedChromeRemoteInterfaceSession.abort call.signal reason s.pool.state).log
        rcases MutationGuardedChromeRemoteInterfaceSession.abort_cases call.signal reason
          s.pool.state with ⟨hsame, hsome⟩ | habort
        · rw [hsame]
          exact h.pool.kept.logged call.signal hsome
        · rw [habort]
          exact List.mem_append_right _ (List.mem_singleton_self _)
    · rcases hrace with heq | ⟨outcome, heq⟩ | ⟨heq, -⟩
      · exact .inl heq
      · cases heq
      · cases heq

/-! ## Calls that start and end -/

variable {config : ChromeSessionConfig} {library : NoticeLibrary}

/-- The operation of a call starts with its entry in the log. -/
theorem called_start (h : PoolSafe s.pool) (manager budget : ℕ) (session : SessionId)
    (snapshot : ExistingReadinessSnapshot) (lease : RuntimeLease) (signal : OperationSignal)
    (fuel : ℕ) :
    .called s.pool.running.length .dismissKnownFreshNotice
        (rawMutationSignal options manager signal) ∈
      (s.pool.start (dismissal config library options manager budget s.pool.running.length session
        snapshot lease signal fuel)).state.log := by
  have hkeeps := dismissal_keeps config library options manager budget session snapshot lease signal
    fuel h.kept (h.fresh _ (Nat.le_refl _))
  exact (advance_record hkeeps).grown.subset
    (List.mem_append_right _ (List.mem_singleton_self _))

/-- A dismissal that is admitted is one more operation of its manager. -/
theorem operations_run {system : SessionSystem Unit} {session : SessionId} {lease : RuntimeLease}
    {signal : Option OperationSignal} (hadmitted : system.admitOperation session lease signal = .ok ()) :
    (system.runSessionOperation .readiness session lease signal).operations =
      system.operations ++ [{ kind := .readiness, session, lease, signal }] := by
  rw [SessionSystem.runSessionOperation, hadmitted]

/-- A call joins, whose operation has just started. -/
theorem SystemSafe.addCall (h : SystemSafe options s) {call : DismissalCall}
    (hcalled : CalledWith options s.pool call) {op : SessionOperation Unit}
    (hop : (s.managers call.manager).operations[call.operation]? = some op)
    (hsignal : op.signal = some call.signal) (habort : op.abortError = none) (hrace : op.race = none)
    (hnew : ∀ (number : ℕ) (call' : DismissalCall), s.calls[number]? = some call' →
      call'.manager = call.manager → call'.operation ≠ call.operation) :
    SystemSafe options { s with calls := s.calls ++ [call] } := by
  have hcalls : ∀ {number : ℕ} {call' : DismissalCall}, (s.calls ++ [call])[number]? = some call' →
      s.calls[number]? = some call' ∨ number = s.calls.length ∧ call' = call := by
    intro number call' hcall
    rcases Nat.lt_or_ge number s.calls.length with hlt | hge
    · rw [List.getElem?_append_left hlt] at hcall
      exact .inl hcall
    · rw [List.getElem?_append_right hge, List.getElem?_singleton] at hcall
      split at hcall <;> cases hcall
      exact .inr ⟨by omega, rfl⟩
  refine ⟨h.pool, fun number call' hcall => ?_,
    fun number number' call₁ call₂ h₁ h₂ hmanager hoperation => ?_, fun number error hmem => ?_⟩
  · rcases hcalls hcall with hcall | ⟨rfl, rfl⟩
    · have hold := h.calls number call' hcall
      exact ⟨hold.called, hold.operation, hold.reported⟩
    · refine ⟨hcalled, ⟨op, hop, hsignal, fun hsome => ?_, fun hsome => ?_⟩, fun error hmem => ?_⟩
      · rw [habort] at hsome
        cases hsome
      · rw [hrace] at hsome
        cases hsome
      · exact absurd (h.known _ error hmem) (Nat.lt_irrefl _)
  · rcases hcalls h₁ with hold₁ | ⟨rfl, rfl⟩ <;> rcases hcalls h₂ with hold₂ | ⟨rfl, rfl⟩
    · exact h.distinct number number' call₁ call₂ hold₁ hold₂ hmanager hoperation
    · exact absurd hoperation (hnew number call₁ hold₁ hmanager)
    · exact absurd hoperation.symm (hnew number' call₂ hold₂ hmanager.symm)
    · rfl
  · rw [List.length_append]
    exact Nat.lt_add_right _ (h.known number error hmem)

/-- Starting a dismissal keeps the system safe: the new call has not sent anything. -/
theorem SystemSafe.startDismissal (h : SystemSafe options s) {manager : ℕ} {session : SessionId}
    {lease : RuntimeLease} {signal : OperationSignal} (budget : ℕ)
    (snapshot : ExistingReadinessSnapshot) (fuel : ℕ)
    (hadmitted : (s.managers manager).admitOperation session lease (some signal) = .ok ()) :
    SystemSafe options (s.startDismissal config library options manager session budget snapshot lease
      signal fuel) := by
  have hpool : PoolStep s.pool (s.pool.start (dismissal config library options manager budget
      s.pool.running.length session snapshot lease signal fuel)) :=
    h.pool.start (dismissal_keeps config library options manager budget session snapshot lease signal
      fuel h.pool.kept (h.pool.fresh _ (Nat.le_refl _)))
  have hoperations := operations_run hadmitted
  -- the manager and the sessions move first, then the call joins
  have hmoved : SystemSafe options { s with
      managers := Function.update s.managers manager
        ((s.managers manager).runSessionOperation .readiness session lease (some signal))
      pool := s.pool.start (dismissal config library options manager budget s.pool.running.length
        session snapshot lease signal fuel) } := by
    refine h.steps ⟨hpool, rfl, fun number call op _ hop => ⟨op, ?_, rfl, .inl rfl, .inl rfl⟩,
      List.Subset.refl _, fun _ _ hmem => .inl hmem⟩
    show ((Function.update s.managers manager _) call.manager).operations[call.operation]? = some op
    by_cases heq : call.manager = manager
    · rw [heq] at hop ⊢
      rw [Function.update_self, hoperations]
      exact (List.getElem?_append_left (List.getElem?_eq_some_iff.mp hop).1).trans hop
    · rw [Function.update_of_ne heq, hop]
  have hlast : ((Function.update s.managers manager ((s.managers manager).runSessionOperation
      .readiness session lease (some signal))) manager).operations[(s.managers
        manager).operations.length]? =
      some { kind := .readiness, session, lease, signal := some signal } := by
    rw [Function.update_self, hoperations, List.getElem?_concat_length]
  refine hmoved.addCall (called_start h.pool manager budget session snapshot lease signal fuel)
    hlast rfl rfl rfl fun number call hcall hmanager heq => ?_
  obtain ⟨op, hop, -⟩ := (h.calls number call hcall).operation
  rw [hmanager, heq] at hop
  exact absurd (List.getElem?_eq_some_iff.mp hop).1 (Nat.lt_irrefl _)

/-- Refusals are no rejections of a call. -/
theorem SystemSafe.refused (h : SystemSafe options s) (error : ThrownError) :
    SystemSafe options (s.report [.refused error]) := by
  refine h.steps ⟨h.pool.stays, rfl, fun _ _ op _ hop => ⟨op, hop, rfl, .inl rfl, .inl rfl⟩,
    List.subset_append_left _ _, fun number error' hmem => ?_⟩
  rcases List.mem_append.mp hmem with hmem | hmem
  · exact .inl hmem
  · exact nomatch List.mem_singleton.mp hmem

/-- A call of `dismissKnownFreshNotice` keeps the system safe, admitted or refused. -/
theorem SystemSafe.dismiss (h : SystemSafe options s) (manager : ℕ)
    (snapshot : ExistingReadinessSnapshot) (lease : RuntimeLease) (signal : Option OperationSignal)
    (fuel : ℕ) :
    SystemSafe options (s.dismiss config library options manager snapshot lease signal fuel) := by
  unfold NoticeSystem.dismiss
  dsimp only
  split
  · exact h.refused _
  split
  · exact h.refused _
  split
  · exact h.refused _
  · rename_i hadmitted
    exact h.startDismissal _ snapshot fuel hadmitted

/-- A call ends: where its operation may have reached the page, the lease is reported first. -/
theorem SystemSafe.finishDismissal (h : SystemSafe options s) {number : ℕ} {call : DismissalCall}
    {op : SessionOperation Unit} {outcome : Except ThrownError Unit}
    (hcall : s.calls[number]? = some call)
    (hop : (s.managers call.manager).operations[call.operation]? = some op)
    (hrace : op.race = some outcome) (notified : Except ThrownError Unit) :
    SystemSafe options (s.finishDismissal number call op outcome notified) := by
  -- The operation has its outcome, so it sends nothing more.
  have hholds := h.calls number call hcall
  have hover : Over s.pool call := by
    obtain ⟨op', hop', -, -, hover⟩ := hholds.operation
    cases Option.some.inj (hop.symm.trans hop')
    exact hover (by rw [hrace]; rfl)
  have hmanagers : ∀ (number' : ℕ) (call' : DismissalCall) (previous : SessionOperation Unit),
      s.calls[number']? = some call' →
      (s.managers call'.manager).operations[call'.operation]? = some previous →
      ∃ op', ((s.setManager call.manager ((s.managers call.manager).finish call.operation op
          outcome)).managers call'.manager).operations[call'.operation]? = some op' ∧
        op'.signal = previous.signal ∧
        (op'.abortError = previous.abortError ∨ .aborted call'.signal ∈ s.pool.state.log) ∧
        (op'.race = previous.race ∨ Over s.pool call') := by
    intro number' call' previous _ hprevious
    -- Only the manager of the call moves, and only this operation of it.
    by_cases hmanager : call'.manager = call.manager
    swap
    · refine ⟨previous, ?_, rfl, .inl rfl, .inl rfl⟩
      rw [setManager_of_ne hmanager, hprevious]
    rw [hmanager] at hprevious ⊢
    rw [setManager_self]
    rcases SessionSystem.getElem?_setOperation { op with finished := true } hop hprevious with
      ⟨-, rfl, hnew⟩ | ⟨-, hold⟩
    · exact ⟨_, hnew, rfl, .inl rfl, .inl rfl⟩
    · exact ⟨previous, hold, rfl, .inl rfl, .inl rfl⟩
  have hended : ∀ events : List DismissalEvent,
      (∀ number' error, .rejected number' error ∈ events → number' = number ∧
        (Clicked s.pool call → .uncertain number call.lease ∈ events)) →
      SystemSafe options ((s.setManager call.manager ((s.managers call.manager).finish call.operation
        op outcome)).report events) := by
    -- A rejection that is reported is the one of this call, and its lease was reported with it.
    intro events hevents
    refine h.steps ⟨h.pool.stays, rfl, hmanagers, List.subset_append_left _ _,
      fun number' error hmem => ?_⟩
    rcases List.mem_append.mp hmem with hmem | hmem
    · exact .inl hmem
    · obtain ⟨rfl, hreport⟩ := hevents number' error hmem
      exact .inr ⟨call, hcall, hover, fun hclicked => List.mem_append_right _ (hreport hclicked)⟩
  unfold NoticeSystem.finishDismissal
  dsimp only
  split
  · exact hended _ fun _ _ hmem => nomatch List.mem_singleton.mp hmem
  split
  · refine hended _ fun number' error hmem => ⟨?_, fun _ => List.mem_cons_self⟩
    rcases List.mem_cons.mp hmem with heq | hmem
    · cases heq
    · cases List.mem_singleton.mp hmem
      rfl
  · rename_i hinput
    refine hended _ fun number' error hmem => ⟨?_, fun ⟨command, hsent⟩ => ?_⟩
    · cases List.mem_singleton.mp hmem
      rfl
    · exact absurd (h.pool.kept.flagged call.place command hsent) hinput

/-! ## Runs -/

/-- Every input keeps the system safe. -/
theorem SystemSafe.step (intent : Text) (h : SystemSafe options s) (input : NoticeInput) :
    SystemSafe options (s.step config library options intent input) := by
  cases input with
  | construct => exact h.movePool (h.pool.move (aside_construct library intent))
  | consume budget lease document =>
    exact h.movePool (h.pool.start (consumeAlone_keeps library budget lease document h.pool.kept
      (h.pool.fresh _ (Nat.le_refl _))))
  | dismiss manager snapshot lease signal fuel => exact h.dismiss manager snapshot lease signal fuel
  | manager manager input =>
    simp only [NoticeSystem.step]
    split
    · exact h
    rename_i hshared
    refine h.moveManager manager input ?_ ?_
    · rintro signal reason rfl
      exact hshared rfl
    · rintro number call hcall hmanager ⟨outcome, rfl⟩
      refine absurd (List.any_eq_true.mpr ⟨call, List.mem_of_getElem? hcall, ?_⟩) hshared
      simp [hmanager]
  | answer place answers => exact h.movePool (h.pool.resume place answers)
  | abort signal reason => exact h.abort signal reason
  | settled number =>
    simp only [NoticeSystem.step]
    split
    · exact h
    rename_i call hcall
    split
    · exact h
    rename_i outcome houtcome
    refine h.moveManager _ _ (fun _ _ heq => nomatch heq) fun number' call' hcall' hmanager hsettled => ?_
    obtain ⟨outcome', heq⟩ := hsettled
    -- the operation is that of this call alone
    have hoperation : call.operation = call'.operation := by
      injection heq
    cases h.distinct number number' call call' hcall hcall' hmanager.symm hoperation
    cases Option.some.inj (hcall.symm.trans hcall')
    unfold outcome? at houtcome
    split at houtcome <;> cases houtcome
    rename_i hdone
    exact .inl ⟨_, hdone⟩
  | invalidated number =>
    simp only [NoticeSystem.step]
    split
    · exact h
    · exact h.moveManager _ _ (fun _ _ heq => nomatch heq) fun _ _ _ _ ⟨_, heq⟩ => nomatch heq
  | resume number notified =>
    simp only [NoticeSystem.step]
    split
    · exact h
    rename_i call hcall
    split
    · exact h
    rename_i op hop
    split
    · rename_i outcome hrace _
      exact h.finishDismissal hcall hop hrace notified
    · exact h
  | disconnected session => exact h.movePool (h.pool.move (aside_setFields session _))
  | ledger ledger => exact h.movePool (h.pool.move (aside_changeLedger ledger))

/-- The system is safe at its start, whatever the ledger holds. -/
theorem safe_start (ledger : NoticeLedger) : SystemSafe options (start ledger) := by
  have hopener : ∀ place, (start ledger).pool.state.outer.opener ≠ some (some place) := by
    intro place heq
    simp only [start, NoticeWorld.opener, NoticeWorld.changeLedger, Option.none_or,
      Option.map_map] at heq
    cases hfile : ledger.consumedFile <;> rw [hfile] at heq <;> cases heq
  refine ⟨⟨⟨fun _ _ _ hwait => by cases hwait⟩, ?_, fun place _ => ?_⟩,
    (fun _ _ hcall => by cases hcall), (fun _ _ _ _ hcall => by cases hcall),
    (fun _ _ hmem => by cases hmem)⟩
  · exact ⟨Trace.lawful_nil, (fun _ hmem => by cases hmem), (fun _ _ hmem => by cases hmem),
      (fun _ hmem => by cases hmem), fun _ hsome => by cases hsome⟩
  · exact ⟨(fun _ hmem => by cases hmem), hopener place, rfl⟩

/-- Whether an entry says that a `consume` has returned. -/
def isConsumed : SessionLogEntry → Bool
  | .consumed _ => true
  | _ => false

/-- Whether an entry is a mouse event of this type. -/
def isDispatched (type : NoticeMouseType) : SessionLogEntry → Bool
  | .sent _ (.dispatchMouseEvent command) => command.type == type
  | _ => false

/-- At most one `consume` returns, and its operation sends at most one press and one release, after
it. -/
structure AtMostOnce (log : List SessionLogEntry) : Prop where
  consumed : log.countP isConsumed ≤ 1
  pressed : log.countP (isDispatched .mousePressed) ≤ 1
  released : log.countP (isDispatched .mouseReleased) ≤ 1
  paid : Trace.Lawful (fun past entry => ∀ place command,
    entry = .sent place (.dispatchMouseEvent command) → .consumed place ∈ past) log

/-- A call that rejects has reported its lease as uncertain if its operation sent a mouse event. -/
def Reported (s : NoticeSystem) : Prop :=
  ∀ (number : ℕ) (call : DismissalCall) (error : ThrownError), s.calls[number]? = some call →
    .rejected number error ∈ s.events → Clicked s.pool call →
    .uncertain number call.lease ∈ s.events

/-- A log of the serial law has one return of `consume`, and one press and one release after it. -/
theorem atMostOnce_of_lawful {log : List SessionLogEntry} (h : Trace.Lawful OnceOnly log) :
    AtMostOnce log := by
  have hdispatched : ∀ type, log.countP (isDispatched type) ≤ 1 := by
    refine fun type => h.countP_le_one fun past entry hlaw hentry other hmem hother => ?_
    unfold isDispatched at hentry hother
    split at hentry
    swap
    · cases hentry
    rename_i place command
    split at hother
    swap
    · cases hother
    exact (hlaw.sent place command rfl).2.2 _ _ hmem
      ((eq_of_beq hother).trans (eq_of_beq hentry).symm)
  refine ⟨h.countP_le_one fun past entry hlaw hentry other hmem hother => ?_, hdispatched _,
    hdispatched _, h.mono fun past entry hlaw place command heq => (hlaw.sent place command heq).1⟩
  unfold isConsumed at hentry hother
  split at hentry <;> cases hentry
  split at hother <;> cases hother
  exact hlaw.consumed _ rfl _ hmem

/-- Over every interleaving of the budgets, the managers and their sessions, with every behaviour of
the client and of the file system that keeps the file of a consumption: at most one `consume` of the
intent returns; a mouse event comes after it, and there is at most one press and one release; and a
call of a manager that rejects after a mouse event has reported its lease as uncertain. -/
theorem known_notice_at_most_once (config : ChromeSessionConfig) (library : NoticeLibrary)
    (options : ℕ → NoticeOptions) (intent : Text) (ledger : NoticeLedger)
    (inputs : List NoticeInput) :
    AtMostOnce (run config library options intent ledger inputs).pool.state.log ∧
      Reported (run config library options intent ledger inputs) := by
  have hsafe : ∀ s : NoticeSystem, SystemSafe options s →
      SystemSafe options (inputs.foldl (step config library options intent) s) := by
    induction inputs with
    | nil => exact fun _ h => h
    | cons input inputs ih => exact fun s h => ih _ (h.step intent input)
  have hrun : SystemSafe options (run config library options intent ledger inputs) :=
    hsafe _ (safe_start ledger)
  exact ⟨atMostOnce_of_lawful hrun.pool.kept.lawful, fun number call error hcall hmem hclicked =>
    ((hrun.calls number call hcall).reported error hmem).2 hclicked⟩

end NoticeSystem

end Threadwire
