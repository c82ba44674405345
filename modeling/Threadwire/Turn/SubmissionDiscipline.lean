import Threadwire.Turn.TurnSteps

/-!
# When a turn is submitted

A turn is submitted by one command at most, and only from a composer that was ready, with the
observation armed, the prompt inserted and no write seen since. Enter is let go only after it was
accepted as pressed. An error that tells the caller that nothing was submitted is true, unless it is
the release of the observation that throws it, or it stands for the preflight's word that the lease
was marked: `submission_discipline`.
-/

namespace Threadwire

namespace TurnCommand

/-- The commands that submit a turn. -/
def submits : TurnCommand → Bool
  | .clickTurnSendButton _ _ _ _ | .clickExistingTurnSendButton _ _ _
  | .dispatchEnterKeyDown => true
  | .getTurnComposerState _ | .insertText _ | .insertTextIntoProjectComposer _ _ _
  | .dispatchEnterKeyUp | .getCurrentConversationLocator => false

end TurnCommand

namespace TurnAction

/-- A command that submits the turn is dispatched. -/
def submits : TurnAction → Bool
  | .dispatched command => command.submits
  | _ => false

/-- Neither a submission, nor the key let go, nor the release. -/
def isCalm : TurnAction → Bool
  | .dispatched command => !command.submits && command != .dispatchEnterKeyUp
  | .releasedTurnObservation _ => false
  | _ => true

/-- Calm, and the lease is not marked. -/
def isPreparation (action : TurnAction) : Bool :=
  action.isCalm && match action with
    | .markedUncertain _ => false
    | _ => true

/-- A calm action is no submission. -/
theorem submits_of_isCalm {action : TurnAction} (h : action.isCalm = true) :
    action.submits = false := by
  cases action with
  | dispatched command =>
    simp only [isCalm, Bool.and_eq_true, Bool.not_eq_eq_eq_not, Bool.not_true] at h
    exact h.1
  | _ => rfl

/-- What may come after a submission is calm. -/
theorem isCalm_of_isAftermath {action : TurnAction} (h : action.isAftermath = true) :
    action.isCalm = true := by
  cases action with
  | dispatched command =>
    have hcommand : command = .getCurrentConversationLocator := by simpa [isAftermath] using h
    rw [hcommand]
    rfl
  | releasedTurnObservation _ => cases h
  | _ => rfl

end TurnAction

/-- The composer can take the prompt. -/
structure CdpTurnComposerState.Ready (composer : CdpTurnComposerState) : Prop where
  expectedRoute : composer.expectedRoute = true
  eligible : composer.eligible = true
  focused : composer.focused = true
  empty : composer.empty = true

namespace TurnExecutor

open Effect

/-! ## The law of the submission -/

/-- The command inserts the turn's prompt. -/
def Inserts (c : TurnCall) (command : TurnCommand) : Prop :=
  match c.target with
  | .project projectLocator =>
    ∃ node, command = .insertTextIntoProjectComposer c.text projectLocator node
  | .thread _ | .fresh => command = .insertText c.text

/-- What comes before a submission. The composer's state is the answer to the second question of the
turn. The last observation before the submission was read after the insertion. -/
inductive Prepared (c : TurnCall) (registry : ThreadRegistry) : List TurnAction → Prop
  | intro {route : RouteExpectation} {composer : CdpTurnComposerState} {early : List TurnAction}
    {insertion : TurnCommand} {snapshot : CdpTurnObservationSnapshot}
    (hroute : (resolveExpectedRoute c { registry }).1 = .ok route)
    (hcomposer : c.environment.getTurnComposerState 1 = .settled (.ok composer))
    (hready : composer.Ready)
    (hearly : [.returned (.getTurnComposerState route), .armedTurnObservation c.listening].Sublist
      early)
    (hinsertion : Inserts c insertion) (hwrite : snapshot.write = none) :
    Prepared c registry (early ++ [.returned insertion, .observed snapshot, .committed])

/-- The order of the commands that submit a turn. -/
structure Disciplined (c : TurnCall) (registry : ThreadRegistry) (trace : List TurnAction) :
    Prop where
  once : trace.countP TurnAction.submits ≤ 1
  prepared : ∀ before command after, trace = before ++ .dispatched command :: after →
    command.submits = true → Prepared c registry before
  keyUp : ∀ before after, trace = before ++ .dispatched .dispatchEnterKeyUp :: after →
    .returned .dispatchEnterKeyDown ∈ before

/-- Nothing was submitted, and the lease is not marked. -/
structure Unsubmitted (trace : List TurnAction) : Prop where
  submits : ∀ action ∈ trace, action.submits = false
  unmarked : ∀ lease, .markedUncertain lease ∉ trace

/-- The discipline of a turn's submission: the order of its commands, and an error for which the
caller may try again is thrown only where nothing was submitted. -/
structure SubmissionDiscipline (c : TurnCall) (registry : ThreadRegistry)
    (outcome : Except (Interrupt ThrownError) TurnResult) (trace : List TurnAction) : Prop
    extends Disciplined c registry trace where
  retryable : ∀ error, outcome = .error (.thrown error) → error.isRetryable = true →
    Unsubmitted trace

/-- The release of the observation throws an error for which the caller may try again, after a
submission or a mark. -/
def ReleaseMisleads (trace : List TurnAction) : Prop :=
  ∃ error, .releasedTurnObservation (some error) ∈ trace ∧ error.isRetryable = true ∧
    ¬ Unsubmitted trace

/-- The preflight, which is asked first where the route is known, marks the lease and rejects, and
`rethrowPreCommit` makes an error of that for which the caller may try again. -/
def PreflightMisleads (c : TurnCall) (registry : ThreadRegistry) : Prop :=
  ∃ route error, (resolveExpectedRoute c { registry }).1 = .ok route ∧
    c.environment.waitForTurnComposer 0 = .markedUncertain error ∧
    (preCommitError error).isRetryable = true

variable {c : TurnCall} {registry : ThreadRegistry} {trace : List TurnAction} {α : Type}

/-! ## One action more -/

section Snoc

variable {action : TurnAction}

/-- Where a dispatch stands in a trace with one more action. -/
theorem append_singleton_split {before after : List TurnAction} {x : TurnAction}
    (h : trace ++ [action] = before ++ x :: after) :
    (trace = before ∧ action = x) ∨ ∃ after', trace = before ++ x :: after' := by
  rcases List.eq_nil_or_concat after with rfl | ⟨after', last, rfl⟩
  · obtain ⟨hbefore, hx⟩ := List.append_inj' h rfl
    exact .inl ⟨hbefore, List.singleton_inj.mp hx⟩
  · rw [List.concat_eq_append, ← List.cons_append, ← List.append_assoc] at h
    exact .inr ⟨after', (List.append_inj' h rfl).1⟩

/-- A calm trace: nothing was submitted yet. -/
def Calm (trace : List TurnAction) : Prop := ∀ action ∈ trace, action.isCalm = true

/-- The lease is not marked either. -/
def Preparing (trace : List TurnAction) : Prop := ∀ action ∈ trace, action.isPreparation = true

/-- A turn that prepares is calm. -/
theorem Preparing.calm (h : Preparing trace) : Calm trace :=
  fun action haction => (Bool.and_eq_true_iff.mp (h action haction)).1

/-- It prepares with one action more. -/
theorem Preparing.snoc (h : Preparing trace) (haction : action.isPreparation = true) :
    Preparing (trace ++ [action]) := by
  intro x hx
  rcases List.mem_append.mp hx with hx | hx
  · exact h x hx
  · rw [List.mem_singleton.mp hx]
    exact haction

/-- A trace stays calm. -/
theorem Calm.snoc (h : Calm trace) (haction : action.isCalm = true) : Calm (trace ++ [action]) := by
  intro x hx
  rcases List.mem_append.mp hx with hx | hx
  · exact h x hx
  · rw [List.mem_singleton.mp hx]
    exact haction

/-- Nothing was submitted in the preparation. -/
theorem Preparing.unsubmitted (h : Preparing trace) : Unsubmitted trace where
  submits action haction := TurnAction.submits_of_isCalm (h.calm action haction)
  unmarked lease hlease := by
    have hmark := h _ hlease
    simp [TurnAction.isPreparation] at hmark

/-- A turn whose observation is not released yet keeps to the order. -/
structure InTurn (c : TurnCall) (registry : ThreadRegistry) (trace : List TurnAction) : Prop
    extends Disciplined c registry trace where
  unreleased : ∀ released, .releasedTurnObservation released ∉ trace

/-- The release is not calm. -/
theorem Calm.unreleased (h : Calm trace) (released : Option ThrownError) :
    .releasedTurnObservation released ∉ trace := by
  intro hreleased
  have hcalm := h _ hreleased
  simp [TurnAction.isCalm] at hcalm

/-- A calm trace keeps to the order: nothing was submitted that could break it. -/
theorem Calm.inTurn (h : Calm trace) : InTurn c registry trace where
  once := by
    have hnone : trace.countP TurnAction.submits = 0 := by
      rw [List.countP_eq_zero]
      intro action haction
      simp [TurnAction.submits_of_isCalm (h action haction)]
    omega
  prepared before command after htrace hsubmits := by
    have hcalm := TurnAction.submits_of_isCalm (h (.dispatched command) (by simp [htrace]))
    rw [TurnAction.submits, hsubmits] at hcalm
    cases hcalm
  keyUp before after htrace := by
    have hcalm := h (.dispatched .dispatchEnterKeyUp) (by simp [htrace])
    simp [TurnAction.isCalm] at hcalm
  unreleased := h.unreleased

/-- An action that submits nothing and lets no key go. -/
theorem Disciplined.snoc (h : Disciplined c registry trace) (hsubmits : action.submits = false)
    (hkey : action ≠ .dispatched .dispatchEnterKeyUp) :
    Disciplined c registry (trace ++ [action]) where
  once := by
    rw [List.countP_append, List.countP_singleton, hsubmits]
    exact h.once
  prepared before command after htrace hcommand := by
    rcases append_singleton_split htrace with ⟨-, rfl⟩ | ⟨after', htrace⟩
    · rw [TurnAction.submits, hcommand] at hsubmits
      cases hsubmits
    · exact h.prepared before command after' htrace hcommand
  keyUp before after htrace := by
    rcases append_singleton_split htrace with ⟨-, rfl⟩ | ⟨after', htrace⟩
    · exact absurd rfl hkey
    · exact h.keyUp before after' htrace

/-- The order is not disturbed by calm actions. -/
theorem InTurn.snoc (h : InTurn c registry trace) (haction : action.isCalm = true) :
    InTurn c registry (trace ++ [action]) where
  toDisciplined := h.toDisciplined.snoc (TurnAction.submits_of_isCalm haction) (by
    rintro rfl
    cases haction)
  unreleased released hmem := by
    rcases List.mem_append.mp hmem with hmem | hmem
    · exact h.unreleased released hmem
    · rw [← List.mem_singleton.mp hmem] at haction
      cases haction

/-- The submission. -/
theorem Calm.submit (h : Calm trace) (hprepared : Prepared c registry trace)
    {command : TurnCommand} (hcommand : command.submits = true) :
    InTurn c registry (trace ++ [.dispatched command]) where
  once := by
    have hnone : trace.countP TurnAction.submits = 0 := by
      rw [List.countP_eq_zero]
      intro action haction
      simp [TurnAction.submits_of_isCalm (h action haction)]
    rw [List.countP_append, hnone, List.countP_singleton, Nat.zero_add]
    split <;> omega
  prepared before command' after htrace hsubmits := by
    rcases append_singleton_split htrace with ⟨rfl, -⟩ | ⟨after', htrace⟩
    · exact hprepared
    · exact h.inTurn.prepared before command' after' htrace hsubmits
  keyUp before after htrace := by
    rcases append_singleton_split htrace with ⟨-, heq⟩ | ⟨after', htrace⟩
    · cases heq
      cases hcommand
    · have hturn : InTurn c registry trace := h.inTurn
      exact hturn.keyUp before after' htrace
  unreleased released hmem := by
    rcases List.mem_append.mp hmem with hmem | hmem
    · exact h.unreleased released hmem
    · cases List.mem_singleton.mp hmem

/-- The key is let go. -/
theorem InTurn.keyUp_snoc (h : InTurn c registry trace)
    (hdown : .returned .dispatchEnterKeyDown ∈ trace) :
    InTurn c registry (trace ++ [.dispatched .dispatchEnterKeyUp]) where
  once := by
    rw [List.countP_append]
    exact h.once
  prepared before command after htrace hsubmits := by
    rcases append_singleton_split htrace with ⟨-, heq⟩ | ⟨after', htrace⟩
    · cases heq
      cases hsubmits
    · exact h.prepared before command after' htrace hsubmits
  keyUp before after htrace := by
    rcases append_singleton_split htrace with ⟨rfl, -⟩ | ⟨after', htrace⟩
    · exact hdown
    · exact h.keyUp before after' htrace
  unreleased released hmem := by
    rcases List.mem_append.mp hmem with hmem | hmem
    · exact h.unreleased released hmem
    · cases List.mem_singleton.mp hmem

/-- What follows the submission keeps the order. -/
theorem InTurn.steps {run run' : TurnRun} (h : InTurn c registry run.trace)
    (hsteps : PollSteps run run') : InTurn c registry run'.trace := by
  induction hsteps with
  | refl => exact h
  | tail _ hstep ih =>
    cases hstep with
    | logged action haction => exact ih.snoc (TurnAction.isCalm_of_isAftermath haction)
    | asked => exact ih
    | responded => exact ih
    | registering => exact ih

end Snoc

/-! ## The errors of the response -/

/-- The response has not come to an error for which the caller may try again. -/
def HonestResponse (run : TurnRun) : Prop :=
  ∀ state ∈ run.responseState, ∀ error, state.terminalError = some error →
    error.isRetryable = false

/-- No step after the submission makes an honest response dishonest. -/
theorem HonestResponse.steps {run run' : TurnRun} (h : HonestResponse run)
    (hsteps : PollSteps run run') : HonestResponse run' := by
  induction hsteps with
  | refl => exact h
  | tail _ hstep ih =>
    cases hstep with
    | asked => exact ih
    | logged => exact ih
    | registering => exact ih
    | responded before after hbefore hresponse =>
      rintro state ⟨⟩ error herror
      cases hresponse with
      | failed error' hretryable _ =>
        cases herror
        exact hretryable
      | discarded | completed | accumulated | undeferred | finalized =>
        exact ih before hbefore error herror

/-! ## Up to the commit point -/

section BeforeCommit

variable {run : TurnRun}

/-- A turn that ends before its submission: where its error lets the caller try again, the lease is
not marked either. -/
structure EndsUnsubmitted (i : Interrupt ThrownError) (run : TurnRun) : Prop where
  calm : Calm run.trace
  retryable : ∀ error, i = .thrown error → error.isRetryable = true → Preparing run.trace

/-- A turn that prepares may end in any way. -/
theorem Preparing.ends (h : Preparing run.trace) (i : Interrupt ThrownError) :
    EndsUnsubmitted i run :=
  ⟨h.calm, fun _ _ _ => h⟩

/-- Failing closed. -/
theorem Preparing.wp_failClosed (h : Preparing run.trace) {cause : ThrownError}
    {Q : α → TurnRun → Prop} : wp (failClosed c cause : TurnM α) Q EndsUnsubmitted run := by
  rw [failClosed, wp_bind, wp_record, wp_fail]
  refine ⟨h.calm.snoc rfl, ?_⟩
  rintro _ ⟨⟩ hretryable
  simp at hretryable

/-- Throwing a changed generation on. -/
theorem Preparing.wp_rethrow (h : Preparing run.trace) {error : ThrownError}
    (hchanged : error.isInstance .runtimeGenerationChanged = true) {Q : α → TurnRun → Prop} :
    wp (rethrowGenerationChange error : TurnM α) Q EndsUnsubmitted run := by
  rw [rethrowGenerationChange, wp_bind, wp_record, wp_fail]
  refine ⟨h.calm.snoc rfl, ?_⟩
  rintro _ ⟨⟩ hretryable
  rw [ThrownError.isRetryable_of_generationChanged hchanged] at hretryable
  cases hretryable

/-- Testing the signal leaves the run alone. -/
theorem Preparing.wp_throwIfAborted (h : Preparing run.trace) {Q : Unit → TurnRun → Prop}
    (hQ : Q () run) : wp (throwIfAborted c) Q EndsUnsubmitted run := by
  rw [throwIfAborted, wp_bind, wp_isAborted, wp_onlyIf]
  split
  · exact h.ends _
  · exact hQ

/-- What a command records. -/
theorem wp_withTimeout (passSignal : Bool) (message : String) (command : TurnCommand)
    (answers : ℕ → CommandRace α) :
    wp (withTimeout c passSignal message command answers)
      (fun a run' => answers run.asked = .settled (.ok a) ∧ run'.asked = run.asked + 1 ∧
        run'.responseState = run.responseState ∧
        run'.trace = run.trace ++ [.dispatched command] ++ [.returned command])
      (fun i run' => i ≠ .pending ∧ run'.responseState = run.responseState ∧
        (run'.trace = run.trace ∨ run'.trace = run.trace ++ [.dispatched command])) run := by
  have hsignal : wp (onlyIf passSignal (throwIfAborted c)) (fun _ run' => run' = run)
      (fun i run' => i ≠ .pending ∧ run' = run) run := by
    rw [wp_onlyIf]
    split
    · rw [throwIfAborted, wp_bind, wp_isAborted, wp_onlyIf]
      split
      · exact ⟨nofun, rfl⟩
      · rfl
    · rfl
  rw [withTimeout, wp_bind]
  refine wp_mono hsignal (fun _ run' heq => ?_)
    fun i run' h => ⟨h.1, by rw [h.2], .inl (by rw [h.2])⟩
  subst heq
  have hasked : (run'.log (.dispatched command)).asked = run'.asked := rfl
  rw [wp_bind, wp_record, wp_bind, wp_ask, hasked]
  rcases hanswer : answers run'.asked with (error | a) | _ | _
  · exact ⟨nofun, rfl, .inr rfl⟩
  · exact ⟨rfl, rfl, rfl, rfl⟩
  · exact ⟨nofun, rfl, .inr rfl⟩
  · dsimp only
    rw [wp_bind, wp_isAborted, wp_ite]
    split
    · exact ⟨nofun, rfl, .inr rfl⟩
    · exact ⟨nofun, rfl, .inr rfl⟩

/-- An observation is read on the way. -/
theorem Preparing.wp_readTurnObservation (h : Preparing run.trace) :
    wp (readTurnObservation c)
      (fun snapshot run' => run'.trace = run.trace ++ [.observed snapshot] ∧
        run'.responseState = run.responseState) EndsUnsubmitted run := by
  rw [readTurnObservation, wp_bind, wp_ask]
  have hasked : Preparing ({ run with asked := run.asked + 1 } : TurnRun).trace := h
  cases c.environment.getTurnObservation run.asked with
  | ok snapshot => exact ⟨rfl, rfl⟩
  | error error =>
    dsimp only
    rw [wp_ite]
    split
    · exact hasked.wp_rethrow ‹_›
    · exact hasked.wp_failClosed

/-- No write may be seen before the submission. -/
theorem Preparing.wp_assertNoObservedPreSubmitWrite (h : Preparing run.trace)
    (failClosedOnAnyWrite : Bool) :
    wp (assertNoObservedPreSubmitWrite c failClosedOnAnyWrite)
      (fun _ run' => ∃ snapshot : CdpTurnObservationSnapshot, snapshot.write = none ∧
        run'.trace = run.trace ++ [.observed snapshot] ∧ run'.responseState = run.responseState)
      EndsUnsubmitted run := by
  rw [assertNoObservedPreSubmitWrite, wp_bind]
  refine wp_mono h.wp_readTurnObservation (fun snapshot run' hread => ?_) fun _ _ h => h
  have hprepared : Preparing run'.trace := by
    rw [hread.1]
    exact h.snoc rfl
  cases hwrite : snapshot.write with
  | none => exact ⟨snapshot, hwrite, hread⟩
  | some lifecycle =>
    dsimp only
    rw [wp_ite]
    split
    · exact hprepared.wp_failClosed
    · exact hprepared.ends _

/-- The response is started before it. -/
theorem Preparing.wp_startResponse (h : Preparing run.trace) (hresponse : HonestResponse run) :
    wp (startResponse c)
      (fun _ run' => Preparing run'.trace ∧ run.trace.Sublist run'.trace ∧ HonestResponse run')
      EndsUnsubmitted run := by
  rw [startResponse, wp_onlyIf]
  split
  · rw [wp_bind]
    refine wp_mono (h.wp_assertNoObservedPreSubmitWrite false) (fun _ run' hread => ?_)
      fun _ _ h => h
    obtain ⟨snapshot, -, htrace, -⟩ := hread
    rw [wp_modify, htrace]
    refine ⟨h.snoc rfl, List.sublist_append_left _ _, ?_⟩
    rintro state ⟨⟩ error herror
    cases herror
  · exact ⟨h, .refl _, hresponse⟩

/-- The insertion that returned. -/
def Inserted (c : TurnCall) (run run' : TurnRun) : Prop :=
  ∃ insertion, Inserts c insertion ∧ run'.responseState = run.responseState ∧
    run'.trace = run.trace ++ [.dispatched insertion] ++ [.returned insertion]

/-- An insertion is a preparation. -/
theorem Inserts.isCalm {command : TurnCommand} (h : Inserts c command) :
    (TurnAction.dispatched command).isPreparation = true := by
  unfold Inserts at h
  split at h
  · obtain ⟨node, rfl⟩ := h
    rfl
  · rw [h]
    rfl
  · rw [h]
    rfl

/-- A command that inserts the prompt, returned or not. -/
theorem wp_inserting (h : Preparing run.trace) {command : TurnCommand}
    (hinserts : Inserts c command) (passSignal : Bool) (message : String)
    (answers : ℕ → CommandRace α) :
    wp (withTimeout c passSignal message command answers) (fun _ => Inserted c run)
      (fun i run' => i ≠ .pending ∧ Preparing run'.trace) run := by
  refine wp_mono (wp_withTimeout passSignal message command answers)
    (fun _ run' hreturned => ⟨command, hinserts, hreturned.2.2.1, hreturned.2.2.2⟩)
    fun i run' hthrown => ⟨hthrown.1, ?_⟩
  rcases hthrown.2.2 with htrace | htrace
  · rw [htrace]
    exact h
  · rw [htrace]
    exact h.snoc hinserts.isCalm

/-- The prompt is inserted by one command. -/
theorem wp_insertionCommand (h : Preparing run.trace) (node : Option Rat) :
    wp (insertionCommand c node) (fun _ => Inserted c run)
      (fun i run' => i ≠ .pending ∧ Preparing run'.trace) run := by
  unfold insertionCommand
  cases htarget : c.target with
  | project projectLocator =>
    dsimp only
    rw [wp_bind]
    have hinserts : Inserts c (.insertTextIntoProjectComposer c.text projectLocator node) := by
      simp [Inserts, htarget]
    exact wp_inserting h hinserts _ _ _
  | thread _ =>
    dsimp only
    rw [wp_bind]
    have hinserts : Inserts c (.insertText c.text) := by simp [Inserts, htarget]
    exact wp_inserting h hinserts _ _ _
  | fresh =>
    dsimp only
    rw [wp_bind]
    have hinserts : Inserts c (.insertText c.text) := by simp [Inserts, htarget]
    exact wp_inserting h hinserts _ _ _

/-- The insertion is the turn's last act before its last look at the write. -/
theorem Preparing.wp_insertPrompt (h : Preparing run.trace) (node : Option Rat) :
    wp (insertPrompt c node) (fun _ => Inserted c run) EndsUnsubmitted run := by
  rw [insertPrompt, wp_bind, wp_attempt]
  refine wp_mono (wp_insertionCommand h node) (fun form run' hinserted => hinserted)
    fun i run' hthrown => ?_
  cases i with
  | pending => exact absurd rfl hthrown.1
  | thrown error =>
    dsimp only
    rw [wp_ite]
    split
    · exact hthrown.2.wp_rethrow ‹_›
    rw [wp_ite]
    split
    · exact hthrown.2.wp_failClosed
    rw [wp_bind]
    refine wp_mono (hthrown.2.wp_assertNoObservedPreSubmitWrite false) (fun _ run'' hread => ?_)
      fun _ _ h => h
    obtain ⟨snapshot, -, htrace, -⟩ := hread
    have hprepared : Preparing run''.trace := by
      rw [htrace]
      exact hthrown.2.snoc rfl
    exact hprepared.ends _

/-- The prompt is inserted, and no write was seen since. -/
structure ReadyToSubmit (c : TurnCall) (start : List TurnAction) (run : TurnRun) : Prop where
  preparing : Preparing run.trace
  honest : HonestResponse run
  inserted : ∃ early insertion, ∃ snapshot : CdpTurnObservationSnapshot,
    run.trace = early ++ [.returned insertion] ++ [.observed snapshot] ∧ start.Sublist early ∧
      Inserts c insertion ∧ snapshot.write = none

/-- The prompt is inserted between two looks that see no write. -/
theorem Preparing.wp_insertWhileIdle (h : Preparing run.trace) (hresponse : HonestResponse run)
    (node : Option Rat) :
    wp (insertWhileIdle c node) (fun _ => ReadyToSubmit c run.trace) EndsUnsubmitted run := by
  rw [insertWhileIdle, wp_bind]
  refine h.wp_throwIfAborted ?_
  rw [wp_bind]
  refine wp_mono (h.wp_startResponse hresponse) (fun _ run₁ hstart => ?_) fun _ _ h => h
  obtain ⟨hprepared₁, hsublist, hresponse₁⟩ := hstart
  rw [wp_bind]
  refine hprepared₁.wp_throwIfAborted ?_
  rw [wp_bind]
  refine wp_mono (hprepared₁.wp_insertPrompt node) (fun form run₂ hinserted => ?_) fun _ _ h => h
  obtain ⟨insertion, hinserts, hstate₂, htrace₂⟩ := hinserted
  have hprepared₂ : Preparing run₂.trace := by
    rw [htrace₂]
    exact (hprepared₁.snoc hinserts.isCalm).snoc rfl
  rw [wp_bind]
  refine wp_mono (hprepared₂.wp_assertNoObservedPreSubmitWrite _) (fun _ run₃ hread => ?_)
    fun _ _ h => h
  obtain ⟨snapshot, hwrite, htrace₃, hstate₃⟩ := hread
  have hprepared₃ : Preparing run₃.trace := by
    rw [htrace₃]
    exact hprepared₂.snoc rfl
  -- Nothing but looks stands between the insertion and the submission.
  have hready : ReadyToSubmit c run.trace run₃ := by
    refine ⟨hprepared₃, ?_, run₁.trace ++ [.dispatched insertion], insertion, snapshot, ?_,
      hsublist.trans (List.sublist_append_left _ _), hinserts, hwrite⟩
    · rw [HonestResponse, hstate₃, hstate₂]
      exact hresponse₁
    · rw [htrace₃, htrace₂]
  rw [wp_bind, wp_isAborted, wp_bind, wp_onlyIf]
  split
  · exact hprepared₃.wp_failClosed
  · rw [wp_bind]
    exact hprepared₃.wp_throwIfAborted hready

/-! ### The composer -/

/-- A composer that passes the checks is ready. -/
theorem wp_checkComposer (composer : CdpTurnComposerState) :
    wp (checkComposer c composer) (fun _ run' => composer.Ready ∧ run' = run)
      (fun _ run' => run' = run) run := by
  rw [checkComposer, wp_ite]
  split
  · rfl
  rename_i hready
  have hcomposer : composer.Ready := by
    simp only [Bool.or_eq_true, Bool.not_eq_eq_eq_not, Bool.not_true, not_or,
      Bool.not_eq_false] at hready
    exact ⟨hready.1.1.1, hready.1.1.2, hready.1.2, hready.2⟩
  have hnode : wp (composerNode composer : TurnM (Option Rat))
      (fun _ run' => composer.Ready ∧ run' = run) (fun _ run' => run' = run) run := by
    unfold composerNode
    cases composer.backendDOMNodeId with
    | none => rfl
    | some _ =>
      dsimp only
      rw [wp_ite]
      split
      · rfl
      · exact ⟨hcomposer, rfl⟩
  rw [wp_ite]
  split
  · rfl
  cases c.target with
  | project _ =>
    dsimp only
    rw [wp_ite]
    split
    · rfl
    · exact hnode
  | thread _ =>
    dsimp only
    rw [wp_ite]
    split
    · rfl
    · exact hnode
  | fresh => exact ⟨hcomposer, rfl⟩

/-- The first question of the turn is not answered by a mark. -/
def PreflightUnmarked (c : TurnCall) : Prop :=
  ∀ error, c.environment.waitForTurnComposer 0 ≠ .markedUncertain error

/-- The composer was found ready, and its answer was that of the second question. -/
structure ComposerReady (c : TurnCall) (expectedRoute : RouteExpectation) (run : TurnRun) :
    Prop where
  preflight : PreflightUnmarked c
  composer : ∃ composer, c.environment.getTurnComposerState 1 = .settled (.ok composer) ∧
    composer.Ready
  trace : run.trace = [.dispatched (.getTurnComposerState expectedRoute),
    .returned (.getTurnComposerState expectedRoute)]
  response : run.responseState = none

/-- The composer was not found ready. Only the preflight can have marked the lease. -/
inductive ComposerFailed (c : TurnCall) : Interrupt ThrownError → TurnRun → Prop
  | unmarked {i : Interrupt ThrownError} {run : TurnRun} (hpreflight : PreflightUnmarked c)
      (hpreparing : Preparing run.trace) : ComposerFailed c i run
  | marked {error : ThrownError} {run : TurnRun}
      (hanswer : c.environment.waitForTurnComposer 0 = .markedUncertain error)
      (htrace : run.trace = [.markedUncertain c.lease]) : ComposerFailed c (.thrown error) run

/-- The composer is ready, or the turn fails before anything is submitted. -/
theorem wp_prepareComposer (expectedRoute : RouteExpectation) (hasked : run.asked = 0)
    (htrace : run.trace = []) (hstate : run.responseState = none) :
    wp (prepareComposer c expectedRoute) (fun _ => ComposerReady c expectedRoute)
      (ComposerFailed c) run := by
  have hstart : Preparing run.trace := by
    rw [htrace]
    exact fun _ haction => nomatch haction
  have hunmarked : ∀ outcome, c.environment.waitForTurnComposer run.asked = .settled outcome →
      PreflightUnmarked c := by
    intro outcome hanswer error hmarked
    rw [hasked, hmarked] at hanswer
    cases hanswer
  rw [prepareComposer, wp_bind, wp_ask]
  -- The preflight answers with an error, is ready, marks the lease, or never answers.
  rcases hanswer : c.environment.waitForTurnComposer run.asked with (error | _) | error | _
  · exact .unmarked (hunmarked _ hanswer) hstart
  · have hpreflight := hunmarked _ hanswer
    dsimp only
    rw [wp_bind]
    refine wp_mono (wp_withTimeout _ _ _ _) (fun composer run' hread => ?_) fun i run' hthrown => ?_
    · refine wp_mono (wp_checkComposer composer) (fun _ run'' hready => ?_) fun _ run'' heq => ?_
      · obtain ⟨hready, rfl⟩ := hready
        refine ⟨hpreflight, ⟨composer, ?_, hready⟩, ?_, hread.2.2.1.trans hstate⟩
        · rw [← hread.1, hasked]
        · rw [hread.2.2.2, htrace]
          rfl
      · refine .unmarked hpreflight ?_
        rw [heq, hread.2.2.2]
        exact (hstart.snoc rfl).snoc rfl
    · refine .unmarked hpreflight ?_
      -- The state of the composer did not arrive: the command may have been sent or not.
      rcases hthrown.2.2 with heq | heq
      · rw [heq]
        exact hstart
      · rw [heq]
        exact hstart.snoc rfl
  · refine .marked (hasked ▸ hanswer) ?_
    show run.trace ++ [.markedUncertain c.lease] = _
    rw [htrace, List.nil_append]
  · refine .unmarked (fun error hmarked => ?_) hstart
    rw [hasked, hmarked] at hanswer
    cases hanswer

end BeforeCommit

/-! ## The submission -/

section Submission

variable {run : TurnRun}

/-- A turn that ends after its commit point. -/
structure EndsSubmitted (c : TurnCall) (registry : ThreadRegistry) (i : Interrupt ThrownError)
    (run : TurnRun) : Prop where
  inTurn : InTurn c registry run.trace
  honest : ∀ error, i = .thrown error → error.isRetryable = false

/-- A turn that fails closed has marked its lease, and its error is none to try again after. -/
theorem InTurn.wp_failClosed (h : InTurn c registry run.trace) {cause : ThrownError}
    {Q : α → TurnRun → Prop} :
    wp (failClosed c cause : TurnM α) Q (EndsSubmitted c registry) run := by
  rw [failClosed, wp_bind, wp_record, wp_fail]
  refine ⟨h.snoc rfl, ?_⟩
  rintro _ ⟨⟩
  simp

/-- Neither is a changed generation. -/
theorem InTurn.wp_rethrow (h : InTurn c registry run.trace) {error : ThrownError}
    (hchanged : error.isInstance .runtimeGenerationChanged = true) {Q : α → TurnRun → Prop} :
    wp (rethrowGenerationChange error : TurnM α) Q (EndsSubmitted c registry) run := by
  rw [rethrowGenerationChange, wp_bind, wp_record, wp_fail]
  refine ⟨h.snoc rfl, ?_⟩
  rintro _ ⟨⟩
  exact ThrownError.isRetryable_of_generationChanged hchanged

/-- A command of the submission, which may be dispatched here. -/
theorem wp_submitting (h : InTurn c registry run.trace) {command : TurnCommand}
    (hdispatch : InTurn c registry (run.trace ++ [.dispatched command])) (passSignal : Bool)
    (message : String) (answers : ℕ → CommandRace Unit) :
    wp (withTimeout c passSignal message command answers)
      (fun _ run' => InTurn c registry run'.trace ∧ run'.responseState = run.responseState ∧
        .returned command ∈ run'.trace)
      (fun i run' => i ≠ .pending ∧ InTurn c registry run'.trace ∧
        run'.responseState = run.responseState) run := by
  refine wp_mono (wp_withTimeout passSignal message command answers)
    (fun _ run' hreturned => ⟨?_, hreturned.2.2.1, ?_⟩)
    fun i run' hthrown => ⟨hthrown.1, ?_, hthrown.2.1⟩
  · rw [hreturned.2.2.2]
    exact hdispatch.snoc rfl
  · rw [hreturned.2.2.2]
    exact List.mem_append_right _ (List.mem_singleton_self _)
  · rcases hthrown.2.2 with htrace | htrace
    · rw [htrace]
      exact h
    · rw [htrace]
      exact hdispatch

/-- Where such a command was accepted, it has returned. -/
theorem wp_postCommitCommand (h : InTurn c registry run.trace) {command : TurnCommand}
    (hdispatch : InTurn c registry (run.trace ++ [.dispatched command])) (passSignal : Bool)
    (message : String) (answers : ℕ → CommandRace Unit) :
    wp (postCommitCommand c (withTimeout c passSignal message command answers))
      (fun accepted run' => (InTurn c registry run'.trace ∧
        run'.responseState = run.responseState) ∧
        (accepted = true → .returned command ∈ run'.trace))
      (EndsSubmitted c registry) run := by
  rw [postCommitCommand, wp_bind, wp_attempt]
  refine wp_mono (wp_submitting h hdispatch passSignal message answers)
    (fun _ run' hreturned => ⟨⟨hreturned.1, hreturned.2.1⟩, fun _ => hreturned.2.2⟩)
    fun i run' hthrown => ?_
  cases i with
  | pending => exact absurd rfl hthrown.1
  | thrown error =>
    dsimp only
    rw [wp_bind, rethrowPostCommitCommand, wp_ite]
    split
    · exact hthrown.2.1.wp_rethrow ‹_›
    rw [wp_ite]
    split
    · exact hthrown.2.1.wp_failClosed
    · exact ⟨hthrown.2, nofun⟩

/-- The submission is dispatched once, from a trace that is prepared for it. -/
theorem wp_submit (hcalm : Calm run.trace) (hprepared : Prepared c registry run.trace)
    (expectedRoute : RouteExpectation) (node form : Option Rat) :
    wp (submit c expectedRoute node form)
      (fun _ run' => InTurn c registry run'.trace ∧ run'.responseState = run.responseState)
      (EndsSubmitted c registry) run := by
  have hturn : InTurn c registry run.trace := hcalm.inTurn
  unfold submit
  cases c.target with
  | project projectLocator =>
    dsimp only
    rw [clickTurnSendButton, wp_bind, wp_attempt]
    refine wp_mono (wp_submitting hturn (hcalm.submit hprepared rfl) _ _ _)
      (fun _ run' hreturned => ⟨hreturned.1, hreturned.2.1⟩) fun i run' hthrown => ?_
    cases i with
    | pending => exact absurd rfl hthrown.1
    | thrown error =>
      dsimp only
      rw [wp_ite]
      split
      · exact hthrown.2.1.wp_rethrow ‹_›
      · exact hthrown.2.1.wp_failClosed
  | thread _ =>
    cases expectedRoute with
    | thread locator =>
      dsimp only
      rw [clickExistingTurnSendButton, wp_bind]
      exact wp_mono (wp_postCommitCommand hturn (hcalm.submit hprepared rfl) _ _ _)
        (fun _ run' hreturned => hreturned.1) fun _ _ h => h
    | freshRoot => exact hturn.wp_failClosed
    | projectRoot _ => exact hturn.wp_failClosed
  | fresh =>
    dsimp only
    rw [pressEnter, wp_bind]
    refine wp_mono (wp_postCommitCommand hturn (hcalm.submit hprepared rfl) _ _ _)
      (fun accepted run' hdown => ?_) fun _ _ h => h
    rw [wp_onlyIf]
    split
    · rename_i haccepted
      rw [wp_bind]
      -- the key is let go only here, after it was accepted as pressed
      refine wp_mono (wp_postCommitCommand hdown.1.1
        (hdown.1.1.keyUp_snoc (hdown.2 haccepted)) _ _ _) (fun _ run'' hup => ?_) fun _ _ h => h
      exact ⟨hup.1.1, hup.1.2.trans hdown.1.2⟩
    · exact hdown.1

end Submission

/-! ## A turn -/

section Turn

variable {run : TurnRun}

/-- The handle factory throws no error for which the caller may try again. -/
def HonestFactory (c : TurnCall) : Prop :=
  ∀ question attempt error, c.environment.handleFactory question attempt = .error error →
    error.isRetryable = false

/-- After the commit point only honest errors are thrown. -/
theorem PostCommitError.honest (hfactory : HonestFactory c) (hresponse : HonestResponse run)
    {i : Interrupt ThrownError} (h : PostCommitError c i run) :
    ∀ error, i = .thrown error → error.isRetryable = false := by
  rintro error rfl
  cases h with
  | own h => exact h
  | response hstate herror => exact hresponse _ hstate error herror
  | handleFactory h => exact hfactory _ _ _ h

/-- How a turn ends by a throw, but for the release of its observation. -/
inductive TurnThrew (c : TurnCall) (registry : ThreadRegistry) (i : Interrupt ThrownError)
    (run : TurnRun) : Prop
  | unsubmitted (h : EndsUnsubmitted i run)
  | submitted (h : EndsSubmitted c registry i run)

/-- However a turn ends, it keeps to the order. -/
theorem TurnThrew.inTurn {i : Interrupt ThrownError} (h : TurnThrew c registry i run) :
    InTurn c registry run.trace := by
  cases h with
  | unsubmitted h => exact h.calm.inTurn
  | submitted h => exact h.inTurn

/-- Where its error lets the caller try again, nothing was submitted. -/
theorem TurnThrew.retryable {i : Interrupt ThrownError} (h : TurnThrew c registry i run)
    (error : ThrownError) (herror : i = .thrown error) (hretryable : error.isRetryable = true) :
    Unsubmitted run.trace := by
  cases h with
  | unsubmitted h => exact (h.retryable error herror hretryable).unsubmitted
  | submitted h =>
    rw [h.honest error herror] at hretryable
    cases hretryable

/-- The turn, from its armed observation on. -/
theorem wp_runTurn_disciplined (hfactory : HonestFactory c) (fuel : ℕ)
    {expectedRoute : RouteExpectation}
    (hroute : (resolveExpectedRoute c { registry }).1 = .ok expectedRoute)
    {composer : CdpTurnComposerState}
    (hcomposer : c.environment.getTurnComposerState 1 = .settled (.ok composer))
    (hready : composer.Ready)
    (htrace : run.trace = [.dispatched (.getTurnComposerState expectedRoute),
      .returned (.getTurnComposerState expectedRoute), .armedTurnObservation c.listening])
    (hstate : run.responseState = none) (node : Option Rat) :
    wp (runTurn c fuel expectedRoute node) (fun _ run' => InTurn c registry run'.trace)
      (TurnThrew c registry) run := by
  have hpreparing : Preparing run.trace := by
    rw [htrace]
    simp [Preparing, TurnAction.isPreparation, TurnAction.isCalm, TurnCommand.submits]
  have hresponse : HonestResponse run := by
    rw [HonestResponse, hstate]
    exact fun _ hnone => by cases hnone
  rw [runTurn, wp_bind]
  refine wp_mono (hpreparing.wp_insertWhileIdle hresponse node) (fun form run₁ hinserted => ?_)
    fun _ _ h => .unsubmitted h
  -- The prompt is in the composer, the last look saw no write, and the check of the signal passed.
  obtain ⟨early, insertion, snapshot, htrace₁, hsublist, hinserts, hwrite⟩ := hinserted.inserted
  have hprepared : Prepared c registry (run₁.log .committed).trace := by
    -- Both the composer state and the armed observation are behind the insertion.
    have hearly : [.returned (.getTurnComposerState expectedRoute),
        .armedTurnObservation c.listening].Sublist early := by
      rw [htrace] at hsublist
      exact (List.sublist_cons_self _ _).trans hsublist
    have hcommitted : (run₁.log .committed).trace =
        early ++ [.returned insertion, .observed snapshot, .committed] := by
      rw [TurnRun.log, htrace₁]
      simp
    rw [hcommitted]
    exact .intro hroute hcomposer hready hearly hinserts hwrite
  have hcalm : Calm (run₁.log .committed).trace := hinserted.preparing.calm.snoc rfl
  rw [wp_bind, wp_record, wp_bind]
  refine wp_mono (wp_submit hcalm hprepared expectedRoute node form) (fun _ run₂ hsubmitted => ?_)
    fun _ _ h => .submitted h
  have hresponse₂ : HonestResponse run₂ := by
    rw [HonestResponse, hsubmitted.2]
    exact hinserted.honest
  rw [wp_bind, wp_isAborted]
  refine wp_mono (moves_waitForTurnOutcome fuel _ run₂) (fun _ run₃ hsteps => ?_)
    fun i run₃ hthrown => ?_
  · exact hsubmitted.1.steps hsteps
  · refine .submitted ⟨hsubmitted.1.steps hthrown.1, ?_⟩
    rcases hthrown.2 with rfl | herror
    · rintro _ ⟨⟩
    · exact herror.honest hfactory (hresponse₂.steps hthrown.1)

/-- The discipline, exactly where neither the preflight nor the release misleads. -/
abbrev DisciplinedUnlessMisled (c : TurnCall) (registry : ThreadRegistry)
    (outcome : Except (Interrupt ThrownError) TurnResult) (run : TurnRun) : Prop :=
  SubmissionDiscipline c registry outcome run.trace ↔
    ¬ ReleaseMisleads run.trace ∧ ¬ PreflightMisleads c registry

/-- A preflight that did not mark the lease does not mislead. -/
theorem PreflightUnmarked.not_misleads (h : PreflightUnmarked c) (registry : ThreadRegistry) :
    ¬ PreflightMisleads c registry :=
  fun ⟨_, error, _, hmarked, _⟩ => h error hmarked

/-- A turn whose observation was not released. -/
theorem InTurn.disciplined (h : InTurn c registry run.trace)
    (hpreflight : ¬ PreflightMisleads c registry)
    {outcome : Except (Interrupt ThrownError) TurnResult}
    (hretryable : ∀ error, outcome = .error (.thrown error) → error.isRetryable = true →
      Unsubmitted run.trace) : DisciplinedUnlessMisled c registry outcome run :=
  iff_of_true ⟨h.toDisciplined, hretryable⟩
    ⟨fun ⟨_, hreleased, _⟩ => h.unreleased _ hreleased, hpreflight⟩

/-- A turn whose preflight marked the lease. -/
theorem disciplined_of_marked {error : ThrownError} {route : RouteExpectation}
    (hroute : (resolveExpectedRoute c { registry }).1 = .ok route)
    (hanswer : c.environment.waitForTurnComposer 0 = .markedUncertain error)
    (htrace : run.trace = [.markedUncertain c.lease]) :
    DisciplinedUnlessMisled c registry (.error (.thrown (preCommitError error))) run := by
  have hcalm : Calm run.trace := by
    rw [htrace]
    simp [Calm, TurnAction.isCalm]
  constructor
  · intro hlaw
    refine ⟨fun ⟨_, hreleased, _⟩ => hcalm.unreleased _ hreleased, ?_⟩
    rintro ⟨-, error', -, hanswer', hretryable⟩
    cases hanswer.symm.trans hanswer'
    exact (hlaw.retryable _ rfl hretryable).unmarked c.lease (by simp [htrace])
  · rintro ⟨-, hhonest⟩
    have hinTurn : InTurn c registry run.trace := hcalm.inTurn
    refine ⟨hinTurn.toDisciplined, ?_⟩
    rintro _ ⟨⟩ hretryable
    exact absurd ⟨route, error, hroute, hanswer, hretryable⟩ hhonest

/-- The release is the only one of its trace. -/
theorem mem_released_iff (h : InTurn c registry trace) {released : Option ThrownError}
    {error : ThrownError} :
    .releasedTurnObservation (some error) ∈ trace ++ [.releasedTurnObservation released] ↔
      released = some error := by
  rw [List.mem_append, or_iff_right (h.unreleased _), List.mem_singleton,
    TurnAction.releasedTurnObservation.injEq]
  exact eq_comm

/-- It submits nothing itself. -/
theorem unsubmitted_released_iff {released : Option ThrownError} :
    Unsubmitted (trace ++ [.releasedTurnObservation released]) ↔ Unsubmitted trace := by
  constructor
  · exact fun h => ⟨fun action haction => h.submits action (List.mem_append_left _ haction),
      fun lease hlease => h.unmarked lease (List.mem_append_left _ hlease)⟩
  · intro h
    refine ⟨fun action haction => ?_, fun lease hlease => ?_⟩
    · rcases List.mem_append.mp haction with haction | haction
      · exact h.submits action haction
      · rw [List.mem_singleton.mp haction]
        rfl
    · rcases List.mem_append.mp hlease with hlease | hlease
      · exact h.unmarked lease hlease
      · cases List.mem_singleton.mp hlease

/-- A turn whose observation was released. -/
theorem InTurn.released (h : InTurn c registry run.trace)
    (hpreflight : ¬ PreflightMisleads c registry)
    (outcome : Except (Interrupt ThrownError) TurnResult) (released : Option ThrownError)
    (hretryable : ∀ error, outcome = .error (.thrown error) → error.isRetryable = true →
      Unsubmitted run.trace) (asked : ℕ) :
    DisciplinedUnlessMisled c registry
      (match released with
        | none => outcome
        | some error => .error (.thrown error))
      { run.log (.releasedTurnObservation released) with asked } := by
  have hdisciplined : Disciplined c registry (run.log (.releasedTurnObservation released)).trace :=
    h.toDisciplined.snoc rfl (by simp)
  cases released with
  | none =>
    refine iff_of_true ⟨hdisciplined, fun error herror hagain => ?_⟩
      ⟨fun ⟨_, hreleased, _⟩ => ?_, hpreflight⟩
    · exact unsubmitted_released_iff.mpr (hretryable error herror hagain)
    · cases (mem_released_iff h).mp hreleased
  | some error =>
    constructor
    · refine fun hlaw => ⟨?_, hpreflight⟩
      rintro ⟨error', hreleased, hagain, hsubmitted⟩
      cases (mem_released_iff h).mp hreleased
      exact hsubmitted (hlaw.retryable error rfl hagain)
    · rintro ⟨hhonest, -⟩
      refine ⟨hdisciplined, ?_⟩
      rintro _ ⟨⟩ hagain
      by_contra hsubmitted
      exact hhonest ⟨error, (mem_released_iff h).mpr rfl, hagain, hsubmitted⟩

/-- The route is resolved without a trace. -/
theorem wp_resolveExpectedRoute :
    wp (resolveExpectedRoute c)
      (fun route run' => run' = run ∧ (resolveExpectedRoute c run).1 = .ok route)
      (fun _ run' => run' = run ∧ ∀ route, (resolveExpectedRoute c run).1 ≠ .ok route) run := by
  unfold resolveExpectedRoute
  cases c.target with
  | thread threadHandle =>
    simp only [wp_bind, wp_get]
    cases hresolve : run.registry.resolve threadHandle with
    | ok locator =>
      refine ⟨rfl, ?_⟩
      rw [bind_ok (show (get : TurnM TurnRun) run = (.ok run, run) from rfl), hresolve]
      rfl
    | error error =>
      refine ⟨rfl, fun route hroute => ?_⟩
      rw [bind_ok (show (get : TurnM TurnRun) run = (.ok run, run) from rfl), hresolve] at hroute
      cases hroute
  | fresh => exact ⟨rfl, rfl⟩
  | project locator => exact ⟨rfl, rfl⟩

/-- The whole execution: the preflight first, then the turn, then its release. -/
theorem disciplined_executeScheduled (hfactory : HonestFactory c) (fuel : ℕ)
    (registry : ThreadRegistry) :
    wp (executeScheduled c fuel) (fun result => DisciplinedUnlessMisled c registry (.ok result))
      (fun i => DisciplinedUnlessMisled c registry (.error i)) { registry } := by
  -- What ends before the turn is armed has submitted nothing, so it need not be retryable.
  have hearly : ¬ PreflightMisleads c registry → ∀ (i : Interrupt ThrownError) (run : TurnRun),
      Preparing run.trace → DisciplinedUnlessMisled c registry (.error i) run :=
    fun hpreflight _ _ h => InTurn.disciplined h.calm.inTurn hpreflight fun _ _ _ => h.unsubmitted
  rw [executeScheduled, wp_bind]
  refine wp_mono wp_resolveExpectedRoute (fun expectedRoute run₁ hresolved => ?_)
    fun i run₁ hthrown => ?_
  swap
  · obtain ⟨rfl, hunresolved⟩ := hthrown
    exact hearly (fun ⟨route, _, hroute, _⟩ => hunresolved route hroute) _ _
      fun _ haction => by cases haction
  obtain ⟨rfl, hroute⟩ := hresolved
  rw [wp_bind, beforeCommit, wp_rescue]
  refine wp_mono (wp_prepareComposer expectedRoute rfl rfl rfl) (fun node run₂ hcomposer => ?_)
    fun i run₂ h => ?_
  swap
  · -- A preflight that marks the lease is told apart by what it answers: the turn ends with its
    -- error.
    cases h with
    | marked hanswer htrace => exact disciplined_of_marked hroute hanswer htrace
    | unmarked hpreflight hpreparing =>
      cases i with
      | thrown error => exact hearly (hpreflight.not_misleads registry) _ run₂ hpreparing
      | pending => exact hearly (hpreflight.not_misleads registry) _ run₂ hpreparing
  obtain ⟨hunmarked, ⟨composer, hanswer, hready⟩, htrace₂, hstate₂⟩ := hcomposer
  have hpreflight := hunmarked.not_misleads registry
  have hpreparing₂ : Preparing run₂.trace := by
    rw [htrace₂]
    simp [Preparing, TurnAction.isPreparation, TurnAction.isCalm, TurnCommand.submits]
  rw [wp_bind, beforeCommit, wp_rescue, armTurnObservation, wp_bind, wp_ask]
  rcases c.environment.armTurnObservation run₂.asked with error | _
  · exact hearly hpreflight _ _ hpreparing₂
  dsimp only
  rw [wp_record, wp_finalize]
  have htrace₃ : (TurnRun.log { run₂ with asked := run₂.asked + 1 }
      (.armedTurnObservation c.listening)).trace =
        [.dispatched (.getTurnComposerState expectedRoute),
          .returned (.getTurnComposerState expectedRoute), .armedTurnObservation c.listening] := by
    rw [TurnRun.log, htrace₂]
    rfl
  refine wp_mono (wp_runTurn_disciplined hfactory fuel hroute hanswer hready htrace₃ hstate₂ node)
    (fun result run₄ hturn => ?_) fun i run₄ hthrew => ?_
  · -- The release comes after a turn that returned and after one that threw, and may itself throw.
    rw [releaseTurnObservation, wp_bind, wp_ask]
    have hreleased := fun released =>
      hturn.released hpreflight (.ok result) released (by rintro _ ⟨⟩) (run₄.asked + 1)
    rcases c.environment.releaseTurnObservation run₄.asked with error | _
    · exact hreleased (some error)
    · exact hreleased none
  · cases i with
    | pending => exact InTurn.disciplined hthrew.inTurn hpreflight fun _ h _ => by cases h
    | thrown error =>
      show wp (releaseTurnObservation c) _ _ run₄
      rw [releaseTurnObservation, wp_bind, wp_ask]
      have hreleased := fun released =>
        hthrew.inTurn.released hpreflight (.error (.thrown error)) released
          (fun error' herror => hthrew.retryable error' (by cases herror; rfl)) (run₄.asked + 1)
      rcases c.environment.releaseTurnObservation run₄.asked with error' | _
      · exact hreleased (some error')
      · exact hreleased none

/-- A turn keeps the discipline of its submission exactly where it does not mislead its caller: the
release throws no input or disconnection error after a command that submits was dispatched or the
lease was marked, and no such error stands for a mark that the preflight made. -/
theorem submission_discipline (c : TurnCall) (fuel : ℕ) (registry : ThreadRegistry)
    (outcome : Except (Interrupt ThrownError) TurnResult) (run : TurnRun)
    (hfactory : HonestFactory c)
    (hrun : executeScheduled c fuel { registry } = (outcome, run)) :
    SubmissionDiscipline c registry outcome run.trace ↔
      ¬ ReleaseMisleads run.trace ∧ ¬ PreflightMisleads c registry := by
  have hwp := wp_apply (disciplined_executeScheduled hfactory fuel registry)
  rw [hrun] at hwp
  cases outcome with
  | ok result => exact hwp
  | error i => exact hwp

/-- A fresh turn that submits with Enter and sees its write fail. Its observation is released, or
the release throws. -/
def enteredTurn (released : Except ThrownError Unit) : TurnCall where
  environment :=
    { smoothEnvironment fun question =>
        { prepareCount := 0, response := none
          write := if question < 7 then none else some .FAILED } with
      releaseTurnObservation := fun _ => released }
  parseUrl _ := none
  target := .fresh
  text := Text.of "hi"
  lease := ⟨1, ⟨7, "a"⟩⟩
  listening := false

/-- The default factory throws nothing. -/
theorem honestFactory_entered (released : Except ThrownError Unit) :
    HonestFactory (enteredTurn released) := nofun

/-- Where the observation is released, the turn that was submitted and failed keeps the
discipline. -/
theorem submission_discipline_released :
    ∃ outcome run, executeScheduled (enteredTurn (.ok ())) 1 {} = (outcome, run) ∧
      .dispatched .dispatchEnterKeyDown ∈ run.trace ∧
        SubmissionDiscipline (enteredTurn (.ok ())) {} outcome run.trace := by
  refine ⟨_, _, rfl, by decide +kernel, ?_⟩
  refine (submission_discipline _ 1 {} _ _ (honestFactory_entered _) rfl).mpr
    ⟨?_, fun ⟨_, _, _, hmarked, _⟩ => by cases hmarked⟩
  rintro ⟨error, hreleased, -⟩
  have hreleases : (executeScheduled (enteredTurn (.ok ())) 1 {}).2.trace.all
      (fun action => (releaseError? action).isNone) = true := by
    decide +kernel
  cases List.all_eq_true.mp hreleases _ hreleased

/-- A fresh turn whose preflight dismisses a notice: the input does not settle, so the session
manager marks the lease and throws that the state is uncertain. -/
def uncertainPreflight : TurnCall where
  environment :=
    { smoothEnvironment fun _ => { prepareCount := 0, response := none, write := none } with
      waitForTurnComposer := fun _ => .markedUncertain (.ofCode .turnStateUncertain) }
  parseUrl _ := none
  target := .fresh
  text := Text.of "hi"
  lease := ⟨1, ⟨7, "a"⟩⟩
  listening := false

/-- That turn rejects as if only its input had failed, over a lease that was marked; and where the
release throws that the connection is lost, so does a turn that was submitted. -/
theorem misleading_errors_break_discipline :
    (∃ outcome run, executeScheduled uncertainPreflight 1 {} = (outcome, run) ∧
      outcome = .error (.thrown (.ofCode .turnInputFailed)) ∧
      .markedUncertain uncertainPreflight.lease ∈ run.trace ∧
      ¬ SubmissionDiscipline uncertainPreflight {} outcome run.trace) ∧
    ∃ outcome run,
      executeScheduled (enteredTurn (.error (.ofCode .cdpDisconnected))) 1 {} = (outcome, run) ∧
        outcome = .error (.thrown (.ofCode .cdpDisconnected)) ∧
        .dispatched .dispatchEnterKeyDown ∈ run.trace ∧
        ¬ SubmissionDiscipline (enteredTurn (.error (.ofCode .cdpDisconnected))) {} outcome
          run.trace := by
  constructor
  · refine ⟨_, _, rfl, by decide +kernel, by decide +kernel, fun hlaw => ?_⟩
    have hunsubmitted := hlaw.retryable (.ofCode .turnInputFailed) (by decide +kernel) (by decide)
    exact hunsubmitted.unmarked uncertainPreflight.lease (by decide +kernel)
  · refine ⟨_, _, rfl, by decide +kernel, by decide +kernel, fun hlaw => ?_⟩
    have hunsubmitted := hlaw.retryable (.ofCode .cdpDisconnected) (by decide +kernel) (by decide)
    cases hunsubmitted.submits (.dispatched .dispatchEnterKeyDown) (by decide +kernel)

end Turn

end TurnExecutor

end Threadwire
