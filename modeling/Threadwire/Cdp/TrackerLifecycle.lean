import Threadwire.Cdp.CdpResponseStreamTracker

/-!
# The lifecycle of a tracked response

Whatever happens to a tracker, in any order, its lifecycle moves along `PENDING`, `STREAMING` and
`COMPLETED` or `FAILED`, and the last two are final. The invariant behind it, `Coherent`, is that an
activation is outstanding only while nothing has been streamed, and that there is at most one.
-/

namespace Threadwire

namespace CdpResponseStreamTracker

open CdpResponseStreamLifecycleState

/-- The moves of the lifecycle. -/
inductive Moves : CdpResponseStreamLifecycleState → CdpResponseStreamLifecycleState → Prop where
  | stream : Moves PENDING STREAMING
  | reject : Moves PENDING FAILED
  | complete : Moves STREAMING COMPLETED
  | break_ : Moves STREAMING FAILED

/-- Any number of moves. -/
def Advances : CdpResponseStreamLifecycleState → CdpResponseStreamLifecycleState → Prop :=
  Relation.ReflTransGen Moves

/-- `COMPLETED` and `FAILED` are final. -/
theorem Advances.final {l l' : CdpResponseStreamLifecycleState} (h : Advances l l')
    (hfinal : l = COMPLETED ∨ l = FAILED) : l' = l := by
  induction h with
  | refl => rfl
  | tail _ hmove ih =>
    rw [ih] at hmove
    rcases hfinal with rfl | rfl <;> cases hmove

/-- Nothing returns to `PENDING`. -/
theorem Advances.of_pending {l l' : CdpResponseStreamLifecycleState} (h : Advances l l')
    (hpending : l' = PENDING) : l = PENDING := by
  induction h with
  | refl => exact hpending
  | tail _ hmove _ =>
    rw [hpending] at hmove
    cases hmove

/-- What is not complete can fail. -/
theorem advances_failed {l : CdpResponseStreamLifecycleState} (h : l ≠ COMPLETED) :
    Advances l FAILED := by
  cases l with
  | PENDING => exact .single .reject
  | STREAMING => exact .single .break_
  | COMPLETED => exact absurd rfl h
  | FAILED => exact .refl

/-- An activation is outstanding only while nothing has been streamed. -/
structure Coherent (t : CdpResponseStreamTracker) : Prop where
  one : t.activations.length ≤ 1
  waiting : t.activations ≠ [] → t.lifecycle = PENDING ∨ t.lifecycle = FAILED
  begun : t.disposed = false → t.activations ≠ [] → t.lifecycle = PENDING →
    t.activationPending = true
  active : t.activated = true → t.lifecycle = STREAMING ∨ t.lifecycle = COMPLETED

variable {t t' : CdpResponseStreamTracker}

/-- A new tracker is coherent. -/
theorem coherent_initial : Coherent {} := by
  constructor <;> simp

/-- Part of a method: the lifecycle advances, and no activation is issued or settled. -/
structure Continues (t t' : CdpResponseStreamTracker) : Prop where
  advances : Advances t.lifecycle t'.lifecycle
  activations : t'.activations = t.activations
  disposed : t'.disposed = t.disposed
  selected : t'.selectedRequestId = t.selectedRequestId
  active : (t.activated = true → t.lifecycle = STREAMING ∨ t.lifecycle = COMPLETED) →
    t'.activated = true → t'.lifecycle = STREAMING ∨ t'.lifecycle = COMPLETED
  pending : t'.lifecycle = PENDING → t'.activationPending = t.activationPending

/-- Doing nothing is part of a method. -/
theorem Continues.refl (t : CdpResponseStreamTracker) : Continues t t :=
  ⟨.refl, rfl, rfl, rfl, fun h => h, fun _ => rfl⟩

/-- Methods that stream: no activation is outstanding. -/
theorem Continues.coherent_of_streaming (h : Continues t t') (hstreaming : t.activations = [])
    (hcoherent : Coherent t) : Coherent t' where
  one := by rw [h.activations]; exact hcoherent.one
  waiting := fun hne => absurd (h.activations.trans hstreaming) hne
  begun := fun _ hne => absurd (h.activations.trans hstreaming) hne
  active := h.active hcoherent.active

/-- Nothing is outstanding once the response streams. -/
theorem Coherent.no_activation (h : Coherent t) (hstreaming : t.lifecycle = STREAMING) :
    t.activations = [] := by
  by_contra hne
  rcases h.waiting hne with h | h <;> rw [hstreaming] at h <;> cases h

/-- A failure continues; a tracker that is out of use ignores it. -/
theorem fail_continues (failure : CdpResponseStreamFailureKind) :
    Continues t (t.fail failure) := by
  unfold fail
  split
  · exact .refl t
  · rename_i hopen
    refine ⟨advances_failed ?_, rfl, rfl, rfl, fun _ h => (nomatch h), fun h => nomatch h⟩
    rintro hcompleted
    simp [hcompleted] at hopen

/-- Failing ends in `FAILED`, unless the tracker is out of use already. -/
theorem fail_lifecycle (failure : CdpResponseStreamFailureKind) :
    (t.fail failure).lifecycle = FAILED ∨ t.fail failure = t := by
  unfold fail
  split
  · exact .inr rfl
  · exact .inl rfl

/-- A failure is an advance from any coherent tracker. -/
theorem fail_advances (h : Coherent t) (failure : CdpResponseStreamFailureKind) :
    Coherent (t.fail failure) ∧ Advances t.lifecycle (t.fail failure).lifecycle := by
  have hcontinues := fail_continues (t := t) failure
  refine ⟨?_, hcontinues.advances⟩
  rcases fail_lifecycle (t := t) failure with hfailed | hsame
  · exact ⟨by rw [hcontinues.activations]; exact h.one, fun _ => .inr hfailed,
      fun _ _ hpending => (nomatch hfailed.symm.trans hpending), hcontinues.active h.active⟩
  · rwa [hsame]

variable {limits : ConsumerLimits}

/-- A failure of the consumer continues as the tracker's failure. -/
theorem failWith_continues (kind : ResponseStreamConsumerFailureKind) :
    Continues t (t.failWith kind) := by
  cases kind <;> exact fail_continues _

/-- Updating the consumer is no part of the lifecycle. -/
theorem Continues.of_consumer {consumer : Option ResponseStreamConsumer}
    (h : Continues { t with consumer } t') : Continues t t' :=
  ⟨h.advances, h.activations, h.disposed, h.selected, h.active, h.pending⟩

variable (limits) in
/-- Consuming data continues: the consumer takes it, completes or fails. -/
theorem consumeBase64_continues (hstreaming : t.lifecycle = STREAMING) (data : Text) :
    Continues t (t.consumeBase64 limits data) := by
  unfold consumeBase64
  cases t.consumer with
  | none => exact .refl t
  | some consumer =>
    dsimp only
    rcases consumer.pushBase64 limits data with ⟨kind | _, consumer⟩
    · exact (failWith_continues kind).of_consumer
    · dsimp only
      split
      · exact ⟨by rw [hstreaming]; exact .single .complete, rfl, rfl, rfl, fun _ _ => .inr rfl,
          fun h => nomatch h⟩
      · exact ⟨.refl, rfl, rfl, rfl, fun h => h, fun _ => rfl⟩

variable (limits) in
/-- Finishing the consumer continues: it completes or fails. -/
theorem finishConsumer_continues (hstreaming : t.lifecycle = STREAMING) :
    Continues t (t.finishConsumer limits) := by
  unfold finishConsumer
  cases t.consumer with
  | none => exact fail_continues _
  | some consumer =>
    dsimp only
    rcases consumer.finish limits with ⟨kind | _, consumer⟩
    · exact (failWith_continues kind).of_consumer
    · dsimp only
      split
      · exact ⟨by rw [hstreaming]; exact .single .complete, rfl, rfl, rfl, fun _ _ => .inr rfl,
          fun h => nomatch h⟩
      · exact (fail_continues _).of_consumer

/-- One part of a method may follow another, while the lifecycle is not back at its start. -/
theorem Continues.trans {t'' : CdpResponseStreamTracker} (h : Continues t t')
    (h' : Continues t' t'') (hstreaming : t'.lifecycle ≠ PENDING) : Continues t t'' := by
  refine ⟨Relation.ReflTransGen.trans h.advances h'.advances, h'.activations.trans h.activations,
    h'.disposed.trans h.disposed, h'.selected.trans h.selected,
    fun hactive => h'.active (h.active hactive), fun hpending => ?_⟩
  exact absurd (h'.advances.of_pending hpending) hstreaming

/-- A tracker whose lifecycle is neither final nor `PENDING` is streaming. -/
theorem streaming_of_not_terminal (hterminal : t.isTerminal = false)
    (hpending : t.lifecycle ≠ PENDING) : t.lifecycle = STREAMING := by
  unfold isTerminal at hterminal
  cases h : t.lifecycle <;> simp_all

/-- A part of a method does not go back to the start. -/
theorem Continues.not_pending (h : Continues t t') (hstreaming : t.lifecycle = STREAMING) :
    t'.lifecycle ≠ PENDING := by
  intro hpending
  rw [h.advances.of_pending hpending] at hstreaming
  cases hstreaming

variable (limits) in
/-- Consuming the queue continues. -/
theorem consumePending_continues (pending : List Text) (hstreaming : t.lifecycle = STREAMING) :
    Continues t (consumePending limits t pending) := by
  induction pending generalizing t with
  | nil => exact .refl t
  | cons data pending ih =>
    have hconsume := consumeBase64_continues limits hstreaming data
    unfold consumePending
    dsimp only
    split
    · exact hconsume
    · rename_i hterminal
      have hstreaming' := streaming_of_not_terminal (by simpa using hterminal)
        (hconsume.not_pending hstreaming)
      exact hconsume.trans (ih hstreaming') (hconsume.not_pending hstreaming)

/-- Emptying the queue of live data is no part of the lifecycle. -/
theorem Continues.of_pending {pending : List Text} {chars : ℕ}
    (h : Continues { t with pendingLiveData := pending, pendingLiveBase64Chars := chars } t') :
    Continues t t' :=
  ⟨h.advances, h.activations, h.disposed, h.selected, h.active, h.pending⟩

variable (limits) in
/-- Replaying the queue continues. -/
theorem replayPending_continues (hlifecycle : t.lifecycle ≠ PENDING) :
    Continues t (t.replayPending limits) := by
  unfold replayPending
  split
  · exact ⟨.refl, rfl, rfl, rfl, fun h => h, fun _ => rfl⟩
  rename_i hterminal
  have hstreaming := streaming_of_not_terminal (by simpa using hterminal) hlifecycle
  have hconsume := consumePending_continues limits
    (t := { t with pendingLiveData := [], pendingLiveBase64Chars := 0 }) t.pendingLiveData hstreaming
  dsimp only
  split
  · rename_i hfinish
    refine (hconsume.trans (finishConsumer_continues limits ?_) (hconsume.not_pending hstreaming)).of_pending
    simpa using (Bool.and_eq_true_iff.mp hfinish).2
  · exact hconsume.of_pending

variable (limits) in
/-- Consuming the answer of the activation continues. -/
theorem consumeBuffered_continues (bufferedData : Option Text)
    (hstreaming : t.lifecycle = STREAMING) :
    Continues t (t.consumeBuffered limits bufferedData) := by
  unfold consumeBuffered
  cases bufferedData with
  | none => exact .refl t
  | some data =>
    dsimp only
    split
    · exact consumeBase64_continues limits hstreaming data
    · exact .refl t

/-! ## The methods -/

/-- `begin` advances, and issues an activation where nothing was streamed. -/
theorem begin_advances (h : Coherent t) (requestId : RequestId) (network : StreamResourceContent) :
    Coherent (t.begin requestId network) ∧
      Advances t.lifecycle (t.begin requestId network).lifecycle := by
  unfold begin
  split
  · exact ⟨h, .refl⟩
  rename_i hidle
  simp only [isCurrent, Bool.not_and, Bool.not_not, bne_eq_false_iff_eq, Bool.not_eq_true,
    Bool.or_eq_false_iff] at hidle
  obtain ⟨⟨⟨⟨hdisposed, -⟩, hlifecycle⟩, hpending⟩, -⟩ := hidle
  have hnone : t.activations = [] := by
    by_contra hne
    rw [h.begun hdisposed hne hlifecycle] at hpending
    cases hpending
  split
  · exact fail_advances h _
  split
  · have hcalled : Coherent { t with activationPending := true } :=
      ⟨h.one, h.waiting, fun _ _ _ => rfl, h.active⟩
    exact fail_advances hcalled _
  · refine ⟨⟨by simp [hnone], fun _ => .inl hlifecycle, fun _ _ _ => rfl, h.active⟩, .refl⟩

/-- `onData` advances. -/
theorem onData_advances (h : Coherent t) (requestId : RequestId) (data : Option Text) :
    Coherent (t.onData limits requestId data) ∧
      Advances t.lifecycle (t.onData limits requestId data).lifecycle := by
  unfold onData
  cases data with
  | none => exact ⟨h, .refl⟩
  | some data =>
    dsimp only
    split
    · exact ⟨h, .refl⟩
    rename_i hcurrent
    split
    · split
      · exact fail_advances h _
      split
      · have hcounted : Coherent { t with
            pendingLiveBase64Chars := t.pendingLiveBase64Chars + data.length } :=
          ⟨h.one, h.waiting, h.begun, h.active⟩
        exact fail_advances hcounted _
      · exact ⟨⟨h.one, h.waiting, h.begun, h.active⟩, .refl⟩
    split
    · rename_i hactivated
      have hstreaming : t.lifecycle = STREAMING := by
        rcases h.active hactivated with hstreaming | hcompleted
        · exact hstreaming
        · simp [hcompleted] at hcurrent
      have hconsume := consumeBase64_continues limits hstreaming data
      exact ⟨hconsume.coherent_of_streaming (h.no_activation hstreaming) h, hconsume.advances⟩
    · exact ⟨h, .refl⟩

/-- The end of the transport advances. -/
theorem onTransportSettled_advances (h : Coherent t) (requestId : RequestId) (failed : Bool) :
    Coherent (t.onTransportSettled limits requestId failed) ∧
      Advances t.lifecycle (t.onTransportSettled limits requestId failed).lifecycle := by
  unfold onTransportSettled
  split
  · exact ⟨h, .refl⟩
  split
  · exact fail_advances h _
  split
  · exact ⟨⟨h.one, h.waiting, h.begun, h.active⟩, .refl⟩
  split
  · rename_i hstreaming
    have hfinish := finishConsumer_continues limits hstreaming
    exact ⟨hfinish.coherent_of_streaming (h.no_activation hstreaming) h, hfinish.advances⟩
  · exact fail_advances h _
  · exact ⟨h, .refl⟩
  · exact ⟨h, .refl⟩

/-- Settling the one outstanding activation. -/
theorem Coherent.settle (h : Coherent t) {requestId : RequestId} (hmem : requestId ∈ t.activations) :
    t.activations.erase requestId = [] ∧
      Coherent { t with activations := t.activations.erase requestId } := by
  have hnone : t.activations.erase requestId = [] := by
    rw [← List.length_eq_zero_iff, List.length_erase_of_mem hmem]
    have := h.one
    omega
  rw [hnone]
  exact ⟨rfl, by simp, by simp, by simp, h.active⟩

/-- The answer of an activation advances, once it has been taken off the outstanding ones. -/
theorem completeActivation_advances (h : Coherent t) (hnone : t.activations = [])
    (hlifecycle : t.lifecycle = PENDING ∨ t.lifecycle = FAILED) (requestId : RequestId)
    (bufferedData : Option Text) :
    Coherent (t.completeActivation limits requestId bufferedData) ∧
      Advances t.lifecycle (t.completeActivation limits requestId bufferedData).lifecycle := by
  unfold completeActivation
  split
  · exact ⟨h, .refl⟩
  split
  · refine ⟨⟨h.one, h.waiting, ?_, h.active⟩, .refl⟩
    exact fun _ hne => absurd hnone hne
  rename_i hopen
  have hpending : t.lifecycle = PENDING := by
    rcases hlifecycle with hpending | hfailed
    · exact hpending
    · simp [hfailed] at hopen
  have hbuffered := consumeBuffered_continues limits
    (t := { t with activationPending := false, activated := true, lifecycle := STREAMING })
    bufferedData rfl
  have hall := hbuffered.trans (replayPending_continues limits (hbuffered.not_pending rfl))
    (hbuffered.not_pending rfl)
  refine ⟨hall.coherent_of_streaming hnone ⟨h.one, fun hne => absurd hnone hne,
    fun _ hne => absurd hnone hne, fun _ => .inl rfl⟩, ?_⟩
  rw [hpending]
  exact Relation.ReflTransGen.trans (.single .stream) hall.advances

/-- Giving the tracker up advances. -/
theorem discard_advances (h : Coherent t) :
    Coherent t.discard ∧ Advances t.lifecycle t.discard.lifecycle := by
  unfold discard
  split
  · exact ⟨h, .refl⟩
  dsimp only
  split
  · rename_i hcompleted
    refine ⟨⟨h.one, h.waiting, fun _ _ hpending => ?_, fun hactive => nomatch hactive⟩, .refl⟩
    cases hpending.symm.trans hcompleted
  · rename_i hopen
    exact ⟨⟨h.one, fun _ => .inr rfl, fun _ _ hpending => (nomatch hpending),
      fun hactive => nomatch hactive⟩, advances_failed hopen⟩

/-- One action: the invariant is kept and the lifecycle advances. -/
theorem step_advances {run run' : TrackerRun} {a : TrackerAction} (h : Coherent run.tracker)
    (hstep : run.step limits a = some run') :
    Coherent run'.tracker ∧ Advances run.tracker.lifecycle run'.tracker.lifecycle := by
  cases a with
  | select requestId =>
    cases hstep
    show Coherent (run.tracker.select requestId) ∧
      Advances run.tracker.lifecycle (run.tracker.select requestId).lifecycle
    unfold select
    split
    · exact ⟨⟨h.one, h.waiting, h.begun, h.active⟩, .refl⟩
    · exact ⟨h, .refl⟩
  | begin requestId network => cases hstep; exact begin_advances h requestId network
  | data requestId data => cases hstep; exact onData_advances h requestId data
  | settled requestId failed => cases hstep; exact onTransportSettled_advances h requestId failed
  | activated requestId bufferedData =>
    simp only [TrackerRun.step, Option.ite_none_right_eq_some, Option.some.injEq] at hstep
    obtain ⟨hmem, rfl⟩ := hstep
    -- Taking the activation off leaves none, and the tracker is as `completeActivation` expects it.
    obtain ⟨hnone, hsettled⟩ := h.settle hmem
    exact completeActivation_advances hsettled hnone (h.waiting (List.ne_nil_of_mem hmem)) _ _
  | activationRejected requestId =>
    simp only [TrackerRun.step, Option.ite_none_right_eq_some, Option.some.injEq] at hstep
    obtain ⟨hmem, rfl⟩ := hstep
    obtain ⟨-, hsettled⟩ := h.settle hmem
    unfold rejectActivation
    split
    · exact fail_advances hsettled _
    · exact ⟨hsettled, .refl⟩
  | drain =>
    cases hstep
    show Coherent run.tracker.drain.2 ∧
      Advances run.tracker.lifecycle run.tracker.drain.2.lifecycle
    unfold drain
    -- Draining takes events of the consumer and no more.
    cases run.tracker.consumer with
    | none => exact ⟨h, .refl⟩
    | some consumer =>
      dsimp only
      split <;> exact ⟨⟨h.one, h.waiting, h.begun, h.active⟩, .refl⟩
  | fail failure =>
    cases hstep
    exact fail_advances h failure
  | discard => cases hstep; exact discard_advances h
  | dispose =>
    cases hstep
    exact ⟨⟨h.one, h.waiting, fun hdisposed => (nomatch hdisposed), fun hactive => nomatch hactive⟩,
      .refl⟩

/-- Every tracker that can be reached is coherent. -/
theorem exec_coherent {run : TrackerRun} {actions : List TrackerAction}
    (hrun : Machine.exec (TrackerRun.step limits) {} actions = some run) : Coherent run.tracker :=
  Machine.exec_invariant
    (fun _ _ _ h hstep => (step_advances h hstep).1) coherent_initial hrun

end CdpResponseStreamTracker

end Threadwire
