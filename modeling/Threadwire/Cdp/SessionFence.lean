import Threadwire.Cdp.CdpSessionManager

/-!
# The fence of the session and its lease

The session, its lease, its target and the state change together, and only a call of `connect`
installs a session, which is a new one. So an operation that finds its session and its lease in
place when it completes has had them all along, and a session that an abort has taken from the
manager does not come back to it.
-/

namespace Threadwire

namespace SessionSystem

variable {α : Type} {s t : SessionSystem α} {op : SessionOperation α}

/-- The fields belong together. -/
def Bound (m : CdpSessionManager) : Prop :=
  m.session ≠ none →
    m.boundLease ≠ none ∧ m.selectedTargetId ≠ none ∧ m.currentState = .CONNECTED

/-- A session that is not the manager's yet is new to the operations. -/
def Attached (s : SessionSystem α) : Prop :=
  ∀ lease targetId session, s.connection = some (.initializing lease targetId session) →
    session < s.sessions ∧ ∀ op ∈ s.operations, op.session ≠ session

/-- What holds of an operation. Its abort listener has run if its signal was aborted, and then its
session is not the manager's. -/
structure OperationHolds (s : SessionSystem α) (op : SessionOperation α) : Prop where
  attached : op.session < s.sessions
  taken : op.abortError ≠ none → s.session ≠ some op.session
  heard : op.kind = .readiness → op.finished = false →
    ∀ signal ∈ op.signal, s.aborted signal ≠ none → op.abortError ≠ none

/-- The invariant. -/
structure Fence (s : SessionSystem α) : Prop where
  bound : Bound s.toCdpSessionManager
  connecting : s.connection ≠ none → s.session = none
  current : ∀ session ∈ s.session, session < s.sessions
  attached : Attached s
  operations : ∀ op ∈ s.operations, OperationHolds s op

/-- At the beginning there is no session. -/
theorem fence_initial : Fence ({} : SessionSystem α) where
  bound h := (h rfl).elim
  connecting h := (h rfl).elim
  current _ h := nomatch h
  attached _ _ _ h := nomatch h
  operations _ h := nomatch h

/-! ## `connect` and `disconnect` -/

/-- The manager has no session, and the rest is as before. -/
theorem Fence.forget (h : Fence s) {connection : Option ConnectionStage}
    {currentState : CdpConnectionState} {log : List (SessionEvent α)}
    (hattached : ∀ lease targetId session,
      connection = some (.initializing lease targetId session) → s.connection = connection) :
    Fence { s.forget with connection, currentState, log } where
  bound h := (h rfl).elim
  connecting _ := rfl
  current _ h := nomatch h
  attached lease targetId session hconnection :=
    h.attached lease targetId session ((hattached lease targetId session hconnection).trans
      hconnection)
  operations op hop :=
    { attached := (h.operations op hop).attached
      taken := fun _ hsession => nomatch hsession
      heard := (h.operations op hop).heard }

/-- A suspended call goes on without a session. -/
theorem Fence.connecting_of (h : Fence s) (hsession : s.session = none)
    {connection : Option ConnectionStage} {currentState : CdpConnectionState}
    {log : List (SessionEvent α)}
    (hattached : ∀ lease targetId session,
      connection = some (.initializing lease targetId session) →
        session < s.sessions ∧ ∀ op ∈ s.operations, op.session ≠ session) :
    Fence { s with connection, currentState, log } where
  bound hbound := (hbound hsession).elim
  connecting _ := hsession
  current := h.current
  attached := hattached
  operations op hop :=
    { attached := (h.operations op hop).attached
      taken := (h.operations op hop).taken
      heard := (h.operations op hop).heard }

/-- The end of a call. -/
theorem Fence.ended (h : Fence s) {log : List (SessionEvent α)} :
    Fence { s with connection := none, log } where
  bound := h.bound
  connecting hconnection := (hconnection rfl).elim
  current := h.current
  attached _ _ _ hconnection := nomatch hconnection
  operations op hop :=
    { attached := (h.operations op hop).attached
      taken := (h.operations op hop).taken
      heard := (h.operations op hop).heard }

/-- A connection begins, or the session that is attached is used. -/
theorem Fence.connect (h : Fence s) : Fence s.connect := by
  unfold SessionSystem.connect
  split
  · exact h.ended
  · split
    · exact h.ended
    · exact h.forget fun _ _ _ hconnection => nomatch hconnection

/-- It fails. -/
theorem Fence.failConnect (h : Fence s) (hconnecting : s.connection ≠ none) (error : ThrownError) :
    Fence (s.failConnect error) :=
  h.connecting_of (h.connecting hconnecting) fun _ _ _ hconnection => nomatch hconnection

/-- An attach makes a session that is new to the operations. -/
theorem Fence.attach (h : Fence s) (hconnecting : s.connection ≠ none) (lease : RuntimeLease)
    (targetId : String) :
    Fence { s with
      sessions := s.sessions + 1
      connection := some (.initializing lease targetId s.sessions) } where
  bound := h.bound
  connecting _ := h.connecting hconnecting
  current session hsession := Nat.lt_succ_of_lt (h.current session hsession)
  attached := by
    rintro _ _ _ ⟨⟩
    exact ⟨Nat.lt_succ_self _, fun op hop => Nat.ne_of_lt (h.operations op hop).attached⟩
  operations op hop :=
    { attached := Nat.lt_succ_of_lt (h.operations op hop).attached
      taken := (h.operations op hop).taken
      heard := (h.operations op hop).heard }

/-- The session of a connection that failed is closed, and was never the manager's. -/
theorem Fence.closing (h : Fence s) (hconnecting : s.connection ≠ none) (sessions : ℕ)
    (hsessions : s.sessions ≤ sessions) (error : ThrownError) :
    Fence { s with sessions, connection := some (.closing error) } where
  bound := h.bound
  connecting _ := h.connecting hconnecting
  current session hsession := Nat.lt_of_lt_of_le (h.current session hsession) hsessions
  attached _ _ _ hconnection := nomatch hconnection
  operations op hop :=
    { attached := Nat.lt_of_lt_of_le (h.operations op hop).attached hsessions
      taken := (h.operations op hop).taken
      heard := (h.operations op hop).heard }

/-- The new session is no operation's. -/
theorem Fence.install (h : Fence s) {lease : RuntimeLease} {targetId : String}
    {session : SessionId}
    (hconnection : s.connection = some (.initializing lease targetId session)) :
    Fence ({ s with
        toCdpSessionManager := s.toCdpSessionManager.install lease targetId session }.endConnect
      (.ok ())) where
  bound _ := ⟨nofun, nofun, rfl⟩
  connecting hconnecting := (hconnecting rfl).elim
  current := by
    rintro _ ⟨⟩
    exact (h.attached lease targetId session hconnection).1
  attached _ _ _ hconnecting := nomatch hconnecting
  operations op hop :=
    { attached := (h.operations op hop).attached
      taken := fun _ hsession =>
        (h.attached lease targetId session hconnection).2 op hop (Option.some.inj hsession).symm
      heard := (h.operations op hop).heard }

/-- A stage of the connection settles. -/
theorem Fence.settle (h : Fence s) {stage : ConnectionStage}
    (hconnection : s.connection = some stage) {outcome : Except ThrownError Unit}
    (hsettle : s.settle stage outcome = some t) : Fence t := by
  have hconnecting : s.connection ≠ none := fun hnone => nomatch hconnection.symm.trans hnone
  -- While the connection is being made nothing is installed.
  have hnone := h.connecting hconnecting
  cases stage with
  | disposing lease =>
    cases outcome with
    | error error =>
      cases hsettle
      exact h.connecting_of hnone fun _ _ _ hconnection => nomatch hconnection
    | ok _ =>
      cases hsettle
      exact h.connecting_of hnone fun _ _ _ hconnection => nomatch hconnection
  | discovering lease =>
    cases outcome <;> cases hsettle
    exact h.failConnect hconnecting _
  | attaching lease targetId =>
    cases outcome with
    | error error =>
      cases hsettle
      exact h.failConnect hconnecting _
    | ok _ =>
      unfold SessionSystem.settle at hsettle
      dsimp only at hsettle
      -- The attachment came late: the session is closed again.
      split at hsettle <;> cases hsettle
      · exact h.attach hconnecting lease targetId
      · exact h.closing hconnecting _ (Nat.le_succ _) _
  | initializing lease targetId session =>
    cases outcome with
    | error error =>
      cases hsettle
      exact h.closing hconnecting _ (Nat.le_refl _) _
    | ok _ =>
      unfold SessionSystem.settle at hsettle
      dsimp only at hsettle
      -- Only a session whose initialization was not overtaken is installed.
      split at hsettle <;> cases hsettle
      · exact h.install hconnection
      · exact h.closing hconnecting _ (Nat.le_refl _) _
  | closing error =>
    cases outcome <;> cases hsettle
    all_goals exact h.failConnect hconnecting _
  | disconnecting =>
    cases hsettle
    exact h.connecting_of hnone fun _ _ _ hconnection => nomatch hconnection

/-- The target is discovered, and its session is a new one. -/
theorem Fence.discovered (h : Fence s) {lease : RuntimeLease}
    (hconnection : s.connection = some (.discovering lease)) (targetId : String) :
    Fence (s.discovered lease targetId) := by
  have hconnecting : s.connection ≠ none := fun hnone => nomatch hconnection.symm.trans hnone
  unfold SessionSystem.discovered
  split
  · exact h.failConnect hconnecting _
  · exact h.connecting_of (h.connecting hconnecting) fun _ _ _ hconnection => nomatch hconnection

/-- A session that disconnects is the manager's no longer. -/
theorem Fence.disconnectCallback (h : Fence s) (session : SessionId) :
    Fence { s with toCdpSessionManager := s.toCdpSessionManager.disconnectCallback session } := by
  unfold CdpSessionManager.disconnectCallback
  split
  · exact h
  · exact h.forget fun _ _ _ _ => rfl

/-! ## Operations of the session -/

/-- An entry of the log is nothing to the fence. -/
theorem Fence.record (h : Fence s) (event : SessionEvent α) : Fence (s.record event) where
  bound := h.bound
  connecting := h.connecting
  current := h.current
  attached := h.attached
  operations op hop := { h.operations op hop with }

/-- A signal that is not aborted is passed. -/
theorem throwIfAborted_eq_ok {signal : Option OperationSignal} :
    s.throwIfAborted signal = .ok () ↔ ∀ sig ∈ signal, s.aborted sig = none := by
  unfold throwIfAborted
  cases signal with
  | none => simp
  | some sig => cases haborted : s.aborted sig <;> simp [haborted]

/-- What the check of the session says. -/
theorem assertSessionForLeaseCurrent_eq_ok {session : SessionId} {lease : RuntimeLease}
    (h : s.assertSessionForLeaseCurrent session lease = .ok ()) :
    s.session = some session ∧ s.runtime.current = some lease ∧ s.boundLease = some lease := by
  unfold assertSessionForLeaseCurrent at h
  cases hruntime : s.runtime.assertRuntimeLeaseCurrent lease with
  | error error =>
    rw [hruntime] at h
    cases h
  | ok _ =>
    rw [hruntime] at h
    obtain ⟨hsession, hbound⟩ := CdpSessionManager.assertSessionForLease_eq_ok h
    exact ⟨hsession, LeaseHistory.assertRuntimeLeaseCurrent_eq_ok.mp hruntime, hbound⟩

/-- What the checks before an operation say. -/
theorem admitOperation_eq_ok {session : SessionId} {lease : RuntimeLease}
    {signal : Option OperationSignal} (h : s.admitOperation session lease signal = .ok ()) :
    s.session = some session ∧ ∀ sig ∈ signal, s.aborted sig = none := by
  unfold admitOperation at h
  cases hsession : s.assertSessionForLeaseCurrent session lease with
  | error error =>
    rw [hsession] at h
    cases h
  | ok _ =>
    rw [hsession] at h
    exact ⟨(assertSessionForLeaseCurrent_eq_ok hsession).1, throwIfAborted_eq_ok.mp h⟩

/-- An operation begins on the manager's session, and under its lease. -/
theorem Fence.runSessionOperation (h : Fence s) (kind : SessionOperationKind)
    (session : SessionId) (lease : RuntimeLease) (signal : Option OperationSignal) :
    Fence (s.runSessionOperation kind session lease signal) := by
  unfold SessionSystem.runSessionOperation
  split
  · exact h.record _
  rename_i hadmitted
  obtain ⟨hsession, hunaborted⟩ := admitOperation_eq_ok hadmitted
  refine ⟨h.bound, h.connecting, h.current, fun lease' targetId session' hconnection => ?_, ?_⟩
  · -- no operation starts while a call of `connect` is suspended
    have hnone := h.connecting fun hnone => nomatch hconnection.symm.trans hnone
    cases hsession.symm.trans hnone
  · intro op hop
    rcases List.mem_append.mp hop with hop | hop
    · exact { h.operations op hop with }
    · cases List.mem_singleton.mp hop
      exact ⟨h.current session hsession, fun haborted => (haborted rfl).elim,
        fun _ _ sig hsig haborted => (haborted (hunaborted sig hsig)).elim⟩

/-- An operation changes, its checks and its listener apart. -/
theorem Fence.setOperation (h : Fence s) {operation : ℕ} {op' : SessionOperation α}
    (hop : s.operations[operation]? = some op) (hsession : op'.session = op.session)
    (habort : op'.abortError = op.abortError) (hkind : op'.kind = op.kind)
    (hsignal : op'.signal = op.signal) (hfinished : op'.finished = false → op.finished = false) :
    Fence (s.setOperation operation op') := by
  have hmem := List.mem_of_getElem? hop
  have hholds := h.operations op hmem
  have hset : ∀ other ∈ s.operations.set operation op', other ∈ s.operations ∨ other = op' :=
    fun other hother => List.mem_or_eq_of_mem_set hother
  refine ⟨h.bound, h.connecting, h.current, fun lease targetId session hconnection => ?_, ?_⟩
  · obtain ⟨hlt, hnew⟩ := h.attached lease targetId session hconnection
    refine ⟨hlt, fun other hother => ?_⟩
    rcases hset other hother with hother | rfl
    · exact hnew other hother
    · rw [hsession]
      exact hnew op hmem
  · intro other hother
    rcases hset other hother with hother | rfl
    · exact { h.operations other hother with }
    · refine ⟨hsession ▸ hholds.attached, ?_, ?_⟩
      · rw [habort, hsession]
        exact hholds.taken
      · rw [hkind, hsignal, habort]
        exact fun hreadiness hunfinished => hholds.heard hreadiness (hfinished hunfinished)

/-- An abort in flight takes the session of the operation away. -/
theorem Fence.invalidateSession (h : Fence s) (signal : OperationSignal) :
    Fence (s.invalidateSession signal) := by
  unfold SessionSystem.invalidateSession
  split
  · exact h.forget fun _ _ _ _ => rfl
  · exact h

/-- It leaves the operations and the signals. -/
theorem invalidateSession_frame (s : SessionSystem α) (signal : OperationSignal) :
    (s.invalidateSession signal).operations = s.operations ∧
      (s.invalidateSession signal).aborted = s.aborted := by
  unfold SessionSystem.invalidateSession
  split <;> exact ⟨rfl, rfl⟩

/-- The session of an operation that listens is taken from the manager. -/
theorem invalidateSession_session {signal : OperationSignal} (hop : op ∈ s.operations)
    (hlistens : op.listens signal = true) :
    (s.invalidateSession signal).session ≠ some op.session := by
  unfold SessionSystem.invalidateSession
  split
  · exact nofun
  · rename_i hany
    intro hsession
    exact hany (List.any_eq_true.mpr ⟨op, hop, by simp [hlistens, hsession]⟩)

/-- A signal is aborted: each operation in flight on it loses its session. -/
theorem Fence.abort (h : Fence s) (signal : OperationSignal) (reason : Option ThrownError) :
    Fence (s.abort signal reason) := by
  have ht := h.invalidateSession signal
  obtain ⟨hoperations, haborted⟩ := invalidateSession_frame s signal
  refine ⟨ht.bound, ht.connecting, ht.current, fun lease targetId session hconnection => ?_, ?_⟩
  · obtain ⟨hlt, hnew⟩ := ht.attached lease targetId session hconnection
    refine ⟨hlt, fun op' hop' => ?_⟩
    obtain ⟨op, hop, rfl⟩ := List.mem_map.mp hop'
    have hne := hnew op (hoperations ▸ hop)
    split <;> exact hne
  · intro op' hop'
    obtain ⟨op, hop, rfl⟩ := List.mem_map.mp hop'
    have hholds := ht.operations op (hoperations ▸ hop)
    split
    · rename_i hlistens
      have htaken := invalidateSession_session hop hlistens
      exact ⟨hholds.attached, fun _ => htaken, fun _ _ _ _ _ => nofun⟩
    · rename_i hlistens
      refine ⟨hholds.attached, hholds.taken, fun hkind hfinished sig hsig hsigAborted => ?_⟩
      refine hholds.heard hkind hfinished sig hsig ?_
      -- an operation that does not listen has another signal
      have hne : sig ≠ signal := by
        rintro rfl
        exact hlistens (by
          simp [SessionOperation.listens, hkind, hfinished, Option.mem_def.mp hsig])
      simp only [SessionSystem.abort, Function.update_of_ne hne] at hsigAborted
      rwa [haborted]

/-- The step lemma. -/
theorem Fence.step (h : Fence s) {input : SessionInput α} (hstep : s.step input = some t) :
    Fence t := by
  -- the connection, the operations and the signals; the runtime may change at any time
  cases input with
  | connect =>
    simp only [SessionSystem.step] at hstep
    split at hstep <;> cases hstep
    exact h.connect
  | disconnect =>
    simp only [SessionSystem.step] at hstep
    split at hstep <;> cases hstep
    exact h.forget fun _ _ _ hconnection => nomatch hconnection
  | settle outcome =>
    simp only [SessionSystem.step] at hstep
    split at hstep
    · rename_i stage hconnection
      exact h.settle hconnection hstep
    · cases hstep
  | discovered targetId =>
    simp only [SessionSystem.step] at hstep
    split at hstep <;> cases hstep
    rename_i lease hconnection
    exact h.discovered hconnection targetId
  | disconnectEvent session =>
    simp only [SessionSystem.step] at hstep
    split at hstep <;> cases hstep
    exact h.disconnectCallback session
  | changeRuntime next =>
    cases hstep
    exact ⟨h.bound, h.connecting, h.current, h.attached,
      fun op hop => { h.operations op hop with }⟩
  | run kind session lease signal =>
    cases hstep
    exact h.runSessionOperation kind session lease signal
  | operationSettled operation outcome =>
    simp only [SessionSystem.step] at hstep
    split at hstep <;> cases hstep
    rename_i op hop
    exact h.setOperation hop rfl rfl rfl rfl id
  | abort signal reason =>
    simp only [SessionSystem.step] at hstep
    split at hstep <;> cases hstep
    · exact h
    · exact h.abort signal reason
  | invalidated operation =>
    simp only [SessionSystem.step] at hstep
    split at hstep
    · rename_i op hop
      split at hstep <;> cases hstep
      exact h.setOperation hop rfl rfl rfl rfl id
    · cases hstep
  | resume operation =>
    simp only [SessionSystem.step] at hstep
    split at hstep
    · rename_i op hop
      split at hstep <;> cases hstep
      have hfinished : Fence (s.setOperation operation { op with finished := true }) :=
        h.setOperation hop rfl rfl rfl rfl fun hfinished => nomatch hfinished
      exact hfinished.record _
    · cases hstep

/-! ## How a call ends -/

/-- Whether the event is the end of an operation's call. -/
def isCompletion : SessionEvent α → Bool
  | .returned _ _ | .rejected _ _ => true
  | .connected _ | .disconnected _ | .refused _ | .started _ => false

/-- From one system to the other no operation's call has ended. -/
def Uncompleted (s t : SessionSystem α) : Prop :=
  ∃ events, t.log = s.log ++ events ∧ ∀ event ∈ events, isCompletion event = false

/-- A step that logs nothing. -/
theorem uncompleted_of_log (h : t.log = s.log) : Uncompleted s t :=
  ⟨[], by rw [h, List.append_nil], by simp⟩

/-- Or something else than an end. -/
theorem uncompleted_snoc {event : SessionEvent α} (h : t.log = s.log ++ [event])
    (hevent : isCompletion event = false) : Uncompleted s t :=
  ⟨[event], h, by simpa using hevent⟩

/-- A connection that settles ends no operation. -/
theorem uncompleted_settle {stage : ConnectionStage} {outcome : Except ThrownError Unit}
    (hsettle : s.settle stage outcome = some t) : Uncompleted s t := by
  unfold settle at hsettle
  split at hsettle
  case h_6 =>
    dsimp only at hsettle
    split at hsettle <;> cases hsettle
    all_goals exact uncompleted_of_log rfl
  case h_7 =>
    split at hsettle <;> cases hsettle
    · exact uncompleted_snoc rfl rfl
    · exact uncompleted_of_log rfl
  all_goals cases hsettle
  all_goals first
    | exact uncompleted_of_log rfl
    | exact uncompleted_snoc rfl rfl

/-- Nor does one that begins. -/
theorem uncompleted_connect : Uncompleted s s.connect := by
  unfold connect
  split
  · exact uncompleted_snoc rfl rfl
  · split
    · exact uncompleted_snoc rfl rfl
    · exact uncompleted_of_log rfl

/-- Nor one that discovers its target. -/
theorem uncompleted_discovered (lease : RuntimeLease) (targetId : String) :
    Uncompleted s (s.discovered lease targetId) := by
  unfold discovered
  split
  · exact uncompleted_snoc rfl rfl
  · exact uncompleted_of_log rfl

/-- An operation that begins has not ended. -/
theorem uncompleted_runSessionOperation (kind : SessionOperationKind) (session : SessionId)
    (lease : RuntimeLease) (signal : Option OperationSignal) :
    Uncompleted s (s.runSessionOperation kind session lease signal) := by
  unfold runSessionOperation
  split <;> exact uncompleted_snoc rfl rfl

/-- A call ends where its operation has settled and it resumes. -/
theorem step_cases {input : SessionInput α} (hstep : s.step input = some t) :
    Uncompleted s t ∨ ∃ operation op outcome, s.operations[operation]? = some op ∧
      op.finished = false ∧ t = s.finish operation op outcome := by
  -- only the resumption ends an operation
  cases input with
  | connect =>
    simp only [SessionSystem.step] at hstep
    split at hstep <;> cases hstep
    exact .inl uncompleted_connect
  | disconnect =>
    simp only [SessionSystem.step] at hstep
    split at hstep <;> cases hstep
    exact .inl (uncompleted_of_log rfl)
  | settle outcome =>
    simp only [SessionSystem.step] at hstep
    split at hstep
    · exact .inl (uncompleted_settle hstep)
    · cases hstep
  | discovered targetId =>
    simp only [SessionSystem.step] at hstep
    split at hstep <;> cases hstep
    exact .inl (uncompleted_discovered _ targetId)
  | disconnectEvent session =>
    simp only [SessionSystem.step] at hstep
    split at hstep <;> cases hstep
    exact .inl (uncompleted_of_log rfl)
  | changeRuntime next =>
    cases hstep
    exact .inl (uncompleted_of_log rfl)
  | run kind session lease signal =>
    cases hstep
    exact .inl (uncompleted_runSessionOperation kind session lease signal)
  | operationSettled operation outcome =>
    simp only [SessionSystem.step] at hstep
    split at hstep <;> cases hstep
    exact .inl (uncompleted_of_log rfl)
  | abort signal reason =>
    simp only [SessionSystem.step] at hstep
    split at hstep <;> cases hstep
    · exact .inl (uncompleted_of_log rfl)
    · refine .inl (uncompleted_of_log ?_)
      simp only [SessionSystem.abort, invalidateSession]
      split <;> rfl
  | invalidated operation =>
    simp only [SessionSystem.step] at hstep
    split at hstep
    · split at hstep <;> cases hstep
      exact .inl (uncompleted_of_log rfl)
    · cases hstep
  | resume operation =>
    simp only [SessionSystem.step] at hstep
    split at hstep
    · rename_i op hop
      split at hstep <;> cases hstep
      exact .inr ⟨operation, op, _, hop, ‹_›, rfl⟩
    · cases hstep

/-- What such a step logs is no end. -/
theorem Uncompleted.not_completion (h : Uncompleted s t) {event : SessionEvent α}
    (hlog : t.log = s.log ++ [event]) : isCompletion event = false := by
  obtain ⟨events, hevents, hcompletion⟩ := h
  have heq : events = [event] := List.append_cancel_left (hevents.symm.trans hlog)
  exact hcompletion event (by simp [heq])

/-- A result is returned only where the session and the lease are current and the signal is not
aborted. -/
theorem complete_eq_ok {outcome : Except ThrownError α} {result : α}
    (h : s.complete op outcome = .ok result) :
    s.session = some op.session ∧ s.boundLease = some op.lease ∧
      s.runtime.current = some op.lease ∧ ∀ signal ∈ op.signal, s.aborted signal = none := by
  have hreadiness : s.completeReadiness op outcome = .ok result := by
    unfold complete at h
    split at h
    · exact h
    · unfold completeTurn at h
      split at h
      · rename_i result' hresult
        rw [hresult, Except.ok.inj h]
      · simp only [bind, Except.bind] at h
        split at h <;> cases h
  unfold completeReadiness at hreadiness
  cases outcome with
  | error error => cases hreadiness
  | ok value =>
    cases haborted : s.throwIfAborted op.signal with
    | error error => simp [haborted, bind, Except.bind] at hreadiness
    | ok _ =>
      cases hsession : s.assertSessionForLeaseCurrent op.session op.lease with
      | error error => simp [haborted, hsession, bind, Except.bind] at hreadiness
      | ok _ =>
        obtain ⟨hcurrent, hlease, hbound⟩ := assertSessionForLeaseCurrent_eq_ok hsession
        exact ⟨hcurrent, hbound, hlease, throwIfAborted_eq_ok.mp haborted⟩

/-- In every state of every run a session comes with its lease, its target and the state. A result of
an operation is returned only while its session and its lease are in place and its signal is not
aborted, and when a readiness operation rejects whose signal was aborted while it was pending, its
session is not the manager's. -/
theorem session_lease_fence {inputs : List (SessionInput α)}
    (hrun : Machine.exec step {} inputs = some s) :
    Bound s.toCdpSessionManager ∧
      ∀ input t, s.step input = some t →
        (∀ operation result, t.log = s.log ++ [.returned operation result] →
          ∃ op, s.operations[operation]? = some op ∧
            t.session = some op.session ∧ t.boundLease = some op.lease ∧
            t.runtime.current = some op.lease ∧ ∀ signal ∈ op.signal, t.aborted signal = none) ∧
        ∀ operation error, t.log = s.log ++ [.rejected operation error] →
          ∃ op, s.operations[operation]? = some op ∧
            (op.kind = .readiness → (∃ signal ∈ op.signal, s.aborted signal ≠ none) →
              t.session ≠ some op.session) := by
  have h : Fence s :=
    Machine.exec_invariant (fun _ _ _ h hstep => Fence.step h hstep) fence_initial hrun
  refine ⟨h.bound, fun input t hstep => ⟨fun operation result hlog => ?_,
    fun operation error hlog => ?_⟩⟩
  · rcases step_cases hstep with huncompleted | ⟨operation', op, outcome, hop, -, rfl⟩
    · cases huncompleted.not_completion hlog
    · have hevent := List.append_cancel_left hlog
      simp only [List.cons.injEq, and_true] at hevent
      split at hevent <;> cases hevent
      rename_i hcomplete
      obtain ⟨hsession, hbound, hlease, hunaborted⟩ := complete_eq_ok hcomplete
      exact ⟨op, hop, hsession, hbound, hlease, hunaborted⟩
  · rcases step_cases hstep with huncompleted | ⟨operation', op, outcome, hop, hunfinished, rfl⟩
    · cases huncompleted.not_completion hlog
    · have hevent := List.append_cancel_left hlog
      simp only [List.cons.injEq, and_true] at hevent
      split at hevent <;> cases hevent
      refine ⟨op, hop, fun hkind haborted => ?_⟩
      obtain ⟨signal, hsignal, haborted⟩ := haborted
      have hholds := h.operations op (List.mem_of_getElem? hop)
      exact hholds.taken (hholds.heard hkind hunfinished signal hsignal haborted)

/-- A session is attached, and a readiness operation on it is aborted while it is pending. -/
def abortedSnapshot : List (SessionInput Unit) :=
  [.changeRuntime (some ⟨1, ⟨4242, "t"⟩⟩), .connect, .settle (.ok ()), .discovered "page",
    .settle (.ok ()), .settle (.ok ()), .run .readiness 0 ⟨1, ⟨4242, "t"⟩⟩ (some 7), .abort 7 none,
    .invalidated 0]

/-- The aborted operation rejects, and its session is not the manager's. -/
theorem session_lease_fence_aborted :
    ∃ s t error, Machine.exec step {} abortedSnapshot = some s ∧ s.step (.resume 0) = some t ∧
      t.log = s.log ++ [.rejected 0 error] ∧ t.session ≠ some 0 := by
  have hrun : Machine.exec step {} abortedSnapshot = some _ := rfl
  refine ⟨_, _, _, hrun, rfl, rfl, ?_⟩
  obtain ⟨op, hop, hsession⟩ := ((session_lease_fence hrun).2 (.resume 0) _ rfl).2 0 _ rfl
  cases hop
  exact hsession rfl ⟨7, rfl, nofun⟩

end SessionSystem

end Threadwire
