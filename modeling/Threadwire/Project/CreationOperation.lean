import Threadwire.Machine.Trace
import Threadwire.Project.ProjectCreator

/-!
# The operation that a creation awaits

What `createProjectThroughUi` of a session does to the events of a creation, whatever the client
answers and whatever others do meanwhile: it confirms only after it has called
`onMutationAttempted`, and only right after it has looked at its signal. So an operation that was
abandoned, which runs on, confirms nothing any more.
-/

namespace Threadwire

namespace ProjectCreator

open Coroutine ChromeRemoteInterfaceSession MutationGuardedChromeRemoteInterfaceSession

/-! ## The law -/

/-- When something may happen, after the events before it. -/
def Allowed (past : List CreationEvent) : CreationEvent → Prop
  | .started _ => past = []
  | .called => .mutationAttempted ∉ past
  | .confirmed => .mutationAttempted ∈ past ∧ ∀ outcome, .settled outcome ∉ past
  | .marked lease =>
    .mutationAttempted ∈ past ∧ .started lease ∈ past ∧ ∀ outcome, .settled outcome ∉ past
  | .settled (.error _) => (∀ outcome, .settled outcome ∉ past) ∧
    (.confirmed ∈ past → ∃ lease, .started lease ∈ past ∧ .marked lease ∈ past)
  | .settled (.ok _) =>
    (∀ outcome, .settled outcome ∉ past) ∧ ∃ locator, .returned locator ∈ past
  | _ => True

/-! ## The operation of the session -/

/-- The signal of `withTimeout` is aborted. -/
def Aborted (world : CreationWorld) : Prop := (world.1.aborted.lookup deadlineSignal).isSome = true

/-- `mutationAttempted` is set exactly if `onMutationAttempted` was called. -/
def Coherent (world : CreationWorld) : Prop :=
  world.1.outer = true ↔ .mutationAttempted ∈ world.2

/-- A call that has settled was aborted before. -/
def Open (world : CreationWorld) : Prop := ∀ outcome, .settled outcome ∈ world.2 → Aborted world

/-- What everything keeps. -/
structure Later (s s' : CreationWorld) : Prop where
  coherent : Coherent s → Coherent s'
  grown : s.2 <+: s'.2

/-- What an operation does: it attempts the mutation, and confirms while the signal is not
aborted. -/
structure Progress (s s' : CreationWorld) : Prop where
  aborted : s'.1.aborted = s.1.aborted
  coherent : Coherent s → Coherent s'
  grown : ∃ new, s'.2 = s.2 ++ new ∧
    ∀ event ∈ new, event = .mutationAttempted ∨ event = .confirmed ∧ ¬ Aborted s
  lawful : Open s → Trace.Lawful Allowed s.2 → Trace.Lawful Allowed s'.2

section Relations

variable {s s' s'' : CreationWorld}

/-- What an operation does is one of the things that everything keeps. -/
theorem Progress.later (h : Progress s s') : Later s s' :=
  ⟨h.coherent, h.grown.elim fun new hnew => ⟨new, hnew.1.symm⟩⟩

/-- It aborts nothing. -/
theorem Progress.open_iff (h : Progress s s') : Aborted s' ↔ Aborted s := by
  rw [Aborted, Aborted, h.aborted]

/-- And settles nothing. -/
theorem Progress.mem_settled (h : Progress s s') {outcome : Except ThrownError ProjectHandle}
    (hmem : .settled outcome ∈ s'.2) : .settled outcome ∈ s.2 := by
  obtain ⟨new, hgrown, hnew⟩ := h.grown
  rw [hgrown] at hmem
  refine (List.mem_append.mp hmem).resolve_right fun hmem => ?_
  rcases hnew _ hmem with habsurd | ⟨habsurd, -⟩
  · cases habsurd
  · cases habsurd

instance : Std.Refl Later where
  refl _ := ⟨fun h => h, List.prefix_rfl⟩

instance : IsTrans CreationWorld Later where
  trans _ _ _ h h' := ⟨fun hcoherent => h'.coherent (h.coherent hcoherent), h.grown.trans h'.grown⟩

instance : Std.Refl Progress where
  refl _ := ⟨rfl, fun h => h, ⟨[], (List.append_nil _).symm, (fun _ h => nomatch h)⟩, fun _ h => h⟩

/-- It does so on and on. -/
theorem Progress.trans (h : Progress s s') (h' : Progress s' s'') : Progress s s'' := by
  refine ⟨h'.aborted.trans h.aborted, fun hcoherent => h'.coherent (h.coherent hcoherent), ?_,
    fun hopen hlawful => h'.lawful (fun outcome hmem => ?_) (h.lawful hopen hlawful)⟩
  · obtain ⟨new, hgrown, hnew⟩ := h.grown
    obtain ⟨new', hgrown', hnew'⟩ := h'.grown
    refine ⟨new ++ new', by rw [hgrown', hgrown, List.append_assoc], fun event hmem => ?_⟩
    rcases List.mem_append.mp hmem with hmem | hmem
    · exact hnew event hmem
    · rw [← h.open_iff]
      exact hnew' event hmem
  · exact h.open_iff.mpr (hopen outcome (h.mem_settled hmem))

instance : IsTrans CreationWorld Progress := ⟨fun _ _ _ => Progress.trans⟩

end Relations

/-- The part keeps `P`, and does what an operation may do. -/
def Keeps {α : Type} (P : CreationWorld → Prop) (x : SessionM Bool α) : Prop :=
  ∀ s, P s → wp Later Progress (fun _ => P) (fun _ => P) (x.watch creationMonitor) s

section Keeps

variable {α β : Type} {P : CreationWorld → Prop} {x : SessionM Bool α}

/-- One part after the other. -/
theorem Keeps.bind {f : α → SessionM Bool β} (hx : Keeps P x) (hf : ∀ a, Keeps P (f a)) :
    Keeps P (x >>= f) := by
  intro s hs
  rw [watch_bind, wp_bind]
  exact wp_mono (hx s hs) (fun a s' hs' => hf a s' hs') fun _ _ hs' => hs'

/-- With another error. -/
theorem Keeps.replacing {message : String} (hx : Keeps P x) : Keeps P (replacing message x) := by
  intro s hs
  rw [ChromeRemoteInterfaceSession.replacing, watch_handle, wp_handle]
  exact wp_mono (hx s hs) (fun _ _ hs' => hs') fun _ _ hs' => hs'

/-- A value. -/
theorem keeps_pure (a : α) : Keeps P (pure a : SessionM Bool α) := fun _ hs => hs

/-- An error. -/
theorem keeps_throw (error : ThrownError) : Keeps P (throw error : SessionM Bool α) :=
  fun _ hs => hs

/-- Either branch. -/
theorem keeps_ite {c : Prop} [Decidable c] {y : SessionM Bool α} (hx : Keeps P x) (hy : Keeps P y) :
    Keeps P (if c then x else y) := by
  split
  · exact hx
  · exact hy

variable (hP : ∀ s s', P s → Later s s' → P s')
include hP

/-- A part that does not touch the world. -/
theorem keeps_of_inert (hx : Inert x) : Keeps P x := by
  intro s hs
  induction x generalizing s with
  | done outcome => cases outcome <;> exact hs
  | act move next ih =>
    have hsame : ((move s.1, creationMonitor.moved s.1 (move s.1) s.2) : CreationWorld) = s := by
      rw [hx.1 s.1]
      simp [creationMonitor]
    show Progress s (move s.1, creationMonitor.moved s.1 (move s.1) s.2) ∧
      wp Later Progress _ _ ((next s.1).watch creationMonitor)
        (move s.1, creationMonitor.moved s.1 (move s.1) s.2)
    rw [hsame]
    exact ⟨refl s, ih s.1 (hx.2 s.1) s hs⟩
  | await request resume ih =>
    exact fun answer s' hs' => ⟨refl s', ih answer (hx answer) s' (hP s s' hs hs')⟩

omit hP in
/-- What an entry of the log adds to the events. -/
theorem watch_record (entry : SessionLogEntry) (s : CreationWorld) {Q : Unit → CreationWorld → Prop}
    {E : ThrownError → CreationWorld → Prop} :
    wp Later Progress Q E ((ChromeRemoteInterfaceSession.record entry).watch creationMonitor) s ↔
      Progress s ({ s.1 with log := s.1.log ++ [entry] },
          s.2 ++ [entry].filterMap confirmation?) ∧
        Q () ({ s.1 with log := s.1.log ++ [entry] }, s.2 ++ [entry].filterMap confirmation?) := by
  have hmoved : creationMonitor.moved s.1 { s.1 with log := s.1.log ++ [entry] } s.2 =
      s.2 ++ [entry].filterMap confirmation? := by
    simp [creationMonitor]
  show Progress s ({ s.1 with log := s.1.log ++ [entry] },
      creationMonitor.moved s.1 { s.1 with log := s.1.log ++ [entry] } s.2) ∧
    Q () ({ s.1 with log := s.1.log ++ [entry] },
      creationMonitor.moved s.1 { s.1 with log := s.1.log ++ [entry] } s.2) ↔ _
  rw [hmoved]

/-- An entry that is no confirmation. -/
theorem keeps_record {entry : SessionLogEntry} (hentry : confirmation? entry = none) :
    Keeps P (ChromeRemoteInterfaceSession.record entry) := by
  intro s hs
  rw [watch_record, List.filterMap_cons_none hentry, List.filterMap_nil, List.append_nil]
  have hprogress : Progress s ({ s.1 with log := s.1.log ++ [entry] }, s.2) :=
    ⟨rfl, fun h => h, ⟨[], (List.append_nil _).symm, (fun _ h => nomatch h)⟩, fun _ h => h⟩
  exact ⟨hprogress, hP _ _ hs hprogress.later⟩

/-- A command that is none. -/
theorem keeps_send (operation : ℕ) {command : InterceptedCommand}
    (hcommand : confirmation? (.sent operation command) = none) :
    Keeps P (send operation command) :=
  (keeps_record hP hcommand).bind fun _ =>
    keeps_of_inert hP ((inert_ask _).bind fun outcome => inert_settle outcome)

/-- The check of a command is no confirmation, whatever it comes to. -/
theorem keeps_beforeMutation (operation : ℕ) (command : InterceptedCommand) :
    Keeps P (beforeMutation operation command) := by
  refine (keeps_of_inert hP (inert_ask _)).bind fun outcome => ?_
  cases outcome with
  | ok _ => exact (keeps_record hP rfl).bind fun _ => keeps_pure ()
  | error error => exact (keeps_record hP rfl).bind fun _ => keeps_throw error

/-- A command that is not a confirmation, and has no semantic guard. -/
theorem keeps_intercepted (config : CreatorConfig) (operation : ℕ) {command : InterceptedCommand}
    (hcommand : confirmation? (.sent operation command) = none)
    (hguard : ∀ scope : MutationScope Bool, semanticGuard operation scope command = pure ()) :
    Keeps P ((mutationAwareClient operation (mutationScope config)).intercepted command) := by
  have hsend := keeps_send hP operation hcommand
  unfold mutationAwareClient
  dsimp only
  split
  · exact hsend
  · rename_i scope _
    refine keeps_ite ?_ hsend
    refine (keeps_of_inert hP throwIfAborted_inert).bind fun _ => ?_
    refine (keeps_beforeMutation hP operation command).bind fun _ => ?_
    refine (keeps_of_inert hP throwIfAborted_inert).bind fun _ => ?_
    rw [hguard]
    exact (keeps_pure ()).bind fun _ => hsend

omit hP in
/-- A boolean is read from the answer. -/
theorem keeps_readBoolean (result : RemoteResult) : Keeps P
    (match result.exceptionDetails, result.value with
      | false, .boolean value => pure value
      | _, _ => throw (ThrownError.plain "CDP project UI observation was malformed.")) := by
  split
  · exact keeps_pure _
  · exact keeps_throw _

/-- A script that confirms nothing. -/
theorem keeps_evaluateProjectBoolean (config : CreatorConfig) (operation : ℕ)
    {expression : ProjectScript}
    (hexpression : confirmation? (.sent operation (.evaluate expression)) = none) :
    Keeps P (evaluateProjectBoolean (mutationAwareClient operation (mutationScope config))
      expression) :=
  (keeps_intercepted hP config operation hexpression fun _ => rfl).replacing.bind fun result =>
    keeps_readBoolean result

/-- However often it is asked. -/
theorem keeps_evaluateUntil (config : CreatorConfig) (operation : ℕ) {expression : ProjectScript}
    (hexpression : confirmation? (.sent operation (.evaluate expression)) = none) (attempts : ℕ) :
    Keeps P (evaluateUntil (mutationAwareClient operation (mutationScope config)) expression
      (some deadlineSignal) attempts) := by
  induction attempts with
  | zero => exact keeps_pure false
  | succ attempts ih =>
    refine (keeps_of_inert hP throwIfAborted_inert).bind fun _ => ?_
    refine (keeps_evaluateProjectBoolean hP config operation hexpression).bind fun done => ?_
    refine keeps_ite (keeps_pure true) ?_
    exact (keeps_of_inert hP (delay_inert 100)).bind fun _ => ih

end Keeps

/-! ### Confirmations -/

/-- `onMutationAttempted` was called. -/
def Attempted (s : CreationWorld) : Prop := Coherent s ∧ .mutationAttempted ∈ s.2

section Confirmations

variable {s s' : CreationWorld} {operation : ℕ} {name : Text}

/-- Once attempted, the mutation stays attempted. -/
theorem Attempted.later (h : Attempted s) (hlater : Later s s') : Attempted s' :=
  ⟨hlater.coherent h.1, hlater.grown.subset h.2⟩

/-- The look at the signal. -/
theorem watch_throwIfAborted :
    wp Later Progress (fun _ s' => s' = s ∧ ¬ Aborted s) (fun _ s' => s' = s)
      ((ChromeRemoteInterfaceSession.throwIfAborted (some deadlineSignal)).watch creationMonitor)
      s := by
  have hmoved : creationMonitor.moved s.1 s.1 s.2 = s.2 := by simp [creationMonitor]
  rw [ChromeRemoteInterfaceSession.throwIfAborted, watch_bind, wp_bind]
  show Progress s (s.1, creationMonitor.moved s.1 s.1 s.2) ∧
    wp Later Progress _ _ (watch creationMonitor _) (s.1, creationMonitor.moved s.1 s.1 s.2)
  rw [hmoved]
  simp only [Option.bind_some, watch, wp]
  refine ⟨refl s, ?_⟩
  split
  · exact rfl
  · rename_i hnone
    refine ⟨rfl, fun haborted => ?_⟩
    rw [Aborted, hnone] at haborted
    cases haborted

/-- A confirmation is dispatched while the signal is not aborted. -/
theorem send_confirm (hs : Attempted s) (haborted : ¬ Aborted s) :
    wp Later Progress (fun _ => Attempted) (fun _ => Attempted)
      ((send operation (.evaluate (.confirm name))).watch creationMonitor) s := by
  rw [send, watch_bind, wp_bind, watch_record]
  have hcoherent : Coherent s → Coherent ({ s.1 with log := s.1.log ++
      [.sent operation (.evaluate (.confirm name))] }, s.2 ++ [.confirmed]) := fun h => by
    rw [Coherent, List.mem_append]
    exact h.trans ⟨.inl, fun h => h.resolve_right fun h => nomatch List.mem_singleton.mp h⟩
  have hprogress : Progress s ({ s.1 with log := s.1.log ++
      [.sent operation (.evaluate (.confirm name))] }, s.2 ++ [.confirmed]) := by
    refine ⟨rfl, hcoherent, ⟨_, rfl, fun event hmem => ?_⟩, fun hopen hlawful => ?_⟩
    · exact .inr ⟨List.mem_singleton.mp hmem, haborted⟩
    · exact Trace.lawful_snoc.mpr ⟨hlawful, hs.2, fun outcome hmem => haborted (hopen outcome hmem)⟩
  refine ⟨hprogress, ?_⟩
  have hrest : Keeps Attempted (ask (.intercepted (.evaluate (.confirm name))) >>= fun outcome =>
      settle outcome : SessionM Bool RemoteResult) :=
    keeps_of_inert (fun _ _ h => h.later) ((inert_ask _).bind fun outcome => inert_settle outcome)
  exact hrest _ (hs.later hprogress.later)

/-- The confirmation is sent behind the guard, which looks at the signal. -/
theorem intercepted_confirm (config : CreatorConfig) (hs : Attempted s) (haborted : ¬ Aborted s) :
    wp Later Progress (fun _ => Attempted) (fun _ => Attempted)
      (((mutationAwareClient operation (mutationScope config)).intercepted
        (.evaluate (.confirm name))).watch creationMonitor) s := by
  have hstable : ∀ s s' : CreationWorld, Attempted s → Later s s' → Attempted s' :=
    fun _ _ h => h.later
  unfold mutationAwareClient mutationScope
  cases config.guarded with
  | false => exact send_confirm hs haborted
  | true =>
    show wp _ _ _ _ ((guardedSend operation _ _).watch creationMonitor) s
    rw [guardedSend, watch_bind, wp_bind]
    refine wp_mono (keeps_of_inert hstable throwIfAborted_inert s hs) (fun _ s₁ hs₁ => ?_)
      fun _ _ h => h
    rw [watch_bind, wp_bind]
    refine wp_mono (keeps_beforeMutation hstable operation _ s₁ hs₁) (fun _ s₂ hs₂ => ?_)
      fun _ _ h => h
    rw [watch_bind, wp_bind]
    refine wp_mono watch_throwIfAborted ?_ ?_
    · rintro _ _ ⟨rfl, haborted⟩
      exact send_confirm hs₂ haborted
    · rintro _ _ rfl
      exact hs₂

/-- It is asked for until the UI says so. -/
theorem evaluateUntil_confirm (config : CreatorConfig) (attempts : ℕ) :
    Keeps Attempted (evaluateUntil (mutationAwareClient operation (mutationScope config))
      (.confirm name) (some deadlineSignal) attempts) := by
  have hstable : ∀ s s' : CreationWorld, Attempted s → Later s s' → Attempted s' :=
    fun _ _ h => h.later
  induction attempts with
  | zero => exact keeps_pure false
  | succ attempts ih =>
    intro s hs
    rw [evaluateUntil, watch_bind, wp_bind]
    refine wp_mono watch_throwIfAborted ?_ ?_
    · rintro _ _ ⟨rfl, haborted⟩
      rw [watch_bind, wp_bind, evaluateProjectBoolean, watch_bind, wp_bind, replacing, watch_handle,
        wp_handle]
      refine wp_mono (intercepted_confirm config hs haborted) (fun result s₁ hs₁ => ?_)
        fun _ _ h => h
      refine wp_mono (keeps_readBoolean result s₁ hs₁) (fun done s₂ hs₂ => ?_) fun _ _ h => h
      refine keeps_ite (keeps_pure true) ?_ s₂ hs₂
      exact (keeps_of_inert hstable (delay_inert 100)).bind fun _ => ih
    · rintro _ _ rfl
      exact hs

/-- The call of `onMutationAttempted`. -/
theorem callback_attempts (hs : Coherent s) :
    wp Later Progress (fun _ => Attempted) (fun _ _ => True)
      ((callback fun _ => (.ok (), true)).watch creationMonitor) s := by
  have hmoved : creationMonitor.moved s.1 s.1 s.2 = s.2 := by simp [creationMonitor]
  -- The first call is the one that is logged.
  have hset : creationMonitor.moved s.1 { s.1 with outer := true } s.2 =
      s.2 ++ if s.1.outer then [] else [.mutationAttempted] := by
    cases houter : s.1.outer <;> simp [creationMonitor, houter]
  have hattempted : .mutationAttempted ∈
      s.2 ++ if s.1.outer then [] else [CreationEvent.mutationAttempted] := by
    rw [List.mem_append]
    cases houter : s.1.outer with
    | true => exact .inl (hs.mp houter)
    | false => exact .inr List.mem_cons_self
  have hcoherent : Coherent ({ s.1 with outer := true },
      s.2 ++ if s.1.outer then [] else [.mutationAttempted]) := ⟨fun _ => hattempted, fun _ => rfl⟩
  have hprogress : Progress s ({ s.1 with outer := true },
      s.2 ++ if s.1.outer then [] else [.mutationAttempted]) := by
    -- The step moves the flag and logs the attempt.
    refine ⟨rfl, fun _ => hcoherent, ⟨_, rfl, fun event hmem => .inl ?_⟩, fun _ hlawful => ?_⟩
    · split at hmem
      · exact nomatch hmem
      · exact List.mem_singleton.mp hmem
    · show Trace.Lawful Allowed (s.2 ++ if s.1.outer then [] else [.mutationAttempted])
      split
      · rwa [List.append_nil]
      · exact hlawful.snoc_of_free fun _ => trivial
  show Progress s (s.1, creationMonitor.moved s.1 s.1 s.2) ∧
    Progress (s.1, creationMonitor.moved s.1 s.1 s.2) ({ s.1 with outer := true },
        creationMonitor.moved s.1 { s.1 with outer := true } (creationMonitor.moved s.1 s.1 s.2)) ∧
      Attempted ({ s.1 with outer := true },
        creationMonitor.moved s.1 { s.1 with outer := true } (creationMonitor.moved s.1 s.1 s.2))
  rw [hmoved, hset]
  exact ⟨refl s, hprogress, hcoherent, hattempted⟩

end Confirmations

/-! ### The whole operation -/

section Operation

variable {operation : ℕ}

/-- A string that the UI can return: a locator of some URL. -/
def Accepted (config : CreatorConfig) (locator : ProjectLocator) (_ : CreationWorld) : Prop :=
  ∃ url, createProjectLocator config.platform url = .ok locator

/-- What the UI returns as a locator is one of some URL. -/
theorem accepted_of_locator {config : CreatorConfig} {url : String} {locator : ProjectLocator}
    (h : (sessionConfig config).createProjectLocator url = some locator) (world : CreationWorld) :
    Accepted config locator world := by
  have htoOption : (createProjectLocator config.platform url).toOption = some locator := h
  cases hlocator : createProjectLocator config.platform url with
  | ok found =>
    rw [hlocator] at htoOption
    cases htoOption
    exact ⟨url, hlocator⟩
  | error error =>
    rw [hlocator] at htoOption
    cases htoOption

/-- A part that keeps `P`, and what follows it. -/
theorem Keeps.andThen {α β : Type} {P : CreationWorld → Prop} {x : SessionM Bool α}
    {f : α → SessionM Bool β} {Q : β → CreationWorld → Prop} {s : CreationWorld} (hx : Keeps P x)
    (hs : P s)
    (hf : ∀ a s', P s' → wp Later Progress Q (fun _ _ => True) ((f a).watch creationMonitor) s') :
    wp Later Progress Q (fun _ _ => True) ((x >>= f).watch creationMonitor) s := by
  rw [watch_bind, wp_bind]
  exact wp_mono (hx s hs) hf fun _ _ _ => trivial

/-- The last loop confirms nothing, and returns a locator. -/
theorem awaitProject_accepted (config : CreatorConfig) (name : Text)
    (initialLocator : Option ProjectLocator) (attempts : ℕ) (s : CreationWorld) :
    wp Later Progress (Accepted config) (fun _ _ => True)
      ((awaitProject (sessionConfig config)
        (mutationAwareClient operation (mutationScope config)) name initialLocator
        (some deadlineSignal) attempts).watch creationMonitor) s := by
  have hstable : ∀ s s' : CreationWorld, True → Later s s' → True := fun _ _ h _ => h
  have hdelay : Keeps (fun _ => True)
      (ChromeRemoteInterfaceSession.delay 100 (some deadlineSignal)) :=
    keeps_of_inert hstable (delay_inert 100)
  induction attempts generalizing s with
  | zero => exact trivial
  | succ attempts ih =>
    refine (keeps_of_inert hstable throwIfAborted_inert).andThen trivial fun _ s₁ _ => ?_
    refine (keeps_of_inert hstable (observe_inert _)).andThen trivial fun frame s₂ _ => ?_
    dsimp only
    split
    · exact hdelay.andThen trivial fun _ s₃ _ => ih s₃
    · rename_i found hfound
      split
      · exact hdelay.andThen trivial fun _ s₃ _ => ih s₃
      refine (keeps_evaluateProjectBoolean hstable config operation rfl).andThen trivial
        fun nameVisible s₃ _ => ?_
      split
      · exact accepted_of_locator hfound s₃
      · exact hdelay.andThen trivial fun _ s₄ _ => ih s₄

/-- The operation that the loop awaits. -/
theorem uiOperation_spec (operation : ℕ) (config : CreatorConfig) (session : SessionId)
    (name : Text) {s : CreationWorld} (hs : Coherent s) :
    wp Later Progress (Accepted config) (fun _ _ => True)
      ((uiOperation config session operation name).watch creationMonitor) s := by
  have hstable : ∀ s s' : CreationWorld, Coherent s → Later s s' → Coherent s' :=
    fun _ _ h hlater => hlater.coherent h
  refine (keeps_of_inert hstable inert_get).andThen hs fun world s hs => ?_
  refine (keeps_of_inert hstable (inert_throw _).onlyIf).andThen hs fun _ s hs => ?_
  refine (keeps_of_inert hstable throwIfAborted_inert).andThen hs fun _ s hs => ?_
  refine (keeps_of_inert hstable (observe_inert _)).andThen hs fun initialFrame s hs => ?_
  refine (keeps_evaluateProjectBoolean hstable config operation rfl).andThen hs
    fun opened s hs => ?_
  refine (keeps_of_inert hstable (inert_throw _).onlyIf).andThen hs fun _ s hs => ?_
  refine (keeps_evaluateUntil hstable config operation rfl 50).andThen hs fun focused s hs => ?_
  refine (keeps_of_inert hstable (inert_throw _).onlyIf).andThen hs fun _ s hs => ?_
  refine (keeps_of_inert hstable throwIfAborted_inert).andThen hs fun _ s hs => ?_
  have hinsert := keeps_intercepted hstable config operation
    (rfl : confirmation? (.sent operation (.insertText name)) = none) fun _ => rfl
  refine hinsert.replacing.andThen hs fun _ s hs => ?_
  -- from here on the mutation may have been made
  rw [watch_bind, wp_bind]
  refine wp_mono (callback_attempts hs) (fun _ s hs => ?_) fun _ _ _ => trivial
  refine (evaluateUntil_confirm config 50).andThen hs fun confirmed s hs => ?_
  have hattempted : ∀ s s' : CreationWorld, Attempted s → Later s s' → Attempted s' :=
    fun _ _ h => h.later
  refine (keeps_of_inert hattempted (inert_throw _).onlyIf).andThen hs fun _ s _ => ?_
  exact awaitProject_accepted config name _ 200 s

end Operation

end ProjectCreator

end Threadwire
