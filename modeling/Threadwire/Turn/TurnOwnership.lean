import Threadwire.Turn.TurnRules

/-!
# Who owns a write when a turn has settled

Once a turn is committed, a conversational write may be under way until the port reports it finished
or failed. A turn that settles before that must not let the next operation of its lease start: it
marks the lease, or the lease is gone. `ownsWrite_iff_keepsOwnership` says exactly when this is so.
It is not so where a thread's turn is cancelled while its write is active, and where the release of
the observation throws another error over a changed generation.
-/

namespace Threadwire

namespace TurnExecutor

open Effect

/-- Whether the port has reported the end of the write. -/
def isTerminal : Option CdpWriteLifecycleState → Bool
  | some .FINISHED | some .FAILED => true
  | some .ACTIVE | none => false

/-- The write in an action that read the observation. -/
def observedWrite? : TurnAction → Option (Option CdpWriteLifecycleState)
  | .observed snapshot => some snapshot.write
  | _ => none

/-- The latest write observation of a trace. -/
def latestWrite (trace : List TurnAction) : Option CdpWriteLifecycleState :=
  (trace.reverse.findSome? observedWrite?).join

/-- The turn has seen the end of its write, has marked its lease, or says that the lease is gone. -/
def OwnsWrite (c : TurnCall) (outcome : Except (Interrupt ThrownError) TurnResult)
    (trace : List TurnAction) : Prop :=
  isTerminal (latestWrite trace) = true ∨ .markedUncertain c.lease ∈ trace ∨
    ∃ error, outcome = .error (.thrown error) ∧ error.isInstance .runtimeGenerationChanged = true

/-- The port says that the generation has changed: a call of it does, or the release of the
observation. -/
def saysGenerationChanged : TurnAction → Bool
  | .generationChanged => true
  | .releasedTurnObservation (some error) => error.isInstance .runtimeGenerationChanged
  | _ => false

/-- A turn that rejects because its lease is gone has it from the port, unless it has seen the end of
its write or has marked its lease. -/
def HasItFromPort (c : TurnCall) (outcome : Except (Interrupt ThrownError) TurnResult)
    (trace : List TurnAction) : Prop :=
  ∀ error, outcome = .error (.thrown error) →
    error.isInstance .runtimeGenerationChanged = true →
    isTerminal (latestWrite trace) = true ∨ .markedUncertain c.lease ∈ trace ∨
      ∃ action ∈ trace, saysGenerationChanged action = true

/-- Where a turn owns its write: no poll of a thread's turn comes to its last test for a
cancellation with an active write and finds the turn cancelled, unless the release throws a changed
generation; and the release throws no other error after the generation has changed under a write
that has not ended. -/
structure KeepsOwnership (c : TurnCall) (trace : List TurnAction) : Prop where
  cancelled : isThread c = true → .checkedCancellation .ACTIVE true ∈ trace →
    ∃ error, .releasedTurnObservation (some error) ∈ trace ∧
      error.isInstance .runtimeGenerationChanged = true
  released : ∀ error, .releasedTurnObservation (some error) ∈ trace →
    error.isInstance .runtimeGenerationChanged = false → .generationChanged ∈ trace →
    isTerminal (latestWrite trace) = true

instance (c : TurnCall) (trace : List TurnAction) : Decidable (KeepsOwnership c trace) :=
  decidable_of_iff
    ((isThread c = true → .checkedCancellation .ACTIVE true ∈ trace →
        ∃ error ∈ trace.filterMap releaseError?,
          error.isInstance .runtimeGenerationChanged = true) ∧
      ∀ error ∈ trace.filterMap releaseError?, error.isInstance .runtimeGenerationChanged = false →
        .generationChanged ∈ trace → isTerminal (latestWrite trace) = true)
    (by
      simp only [List.mem_filterMap, releaseError?_eq_some, exists_eq_right]
      exact ⟨fun h => ⟨h.1, h.2⟩, fun h => ⟨h.cancelled, h.released⟩⟩)

/-! ## Traces -/

variable {c : TurnCall} {trace : List TurnAction} {action : TurnAction}

/-- The latest observation counts. -/
theorem latestWrite_observed (snapshot : CdpTurnObservationSnapshot) :
    latestWrite (trace ++ [.observed snapshot]) = snapshot.write := by
  simp [latestWrite, List.findSome?_cons, observedWrite?]

/-- Other actions leave it the latest. -/
theorem latestWrite_snoc (h : observedWrite? action = none) :
    latestWrite (trace ++ [action]) = latestWrite trace := by
  simp [latestWrite, h]

/-- The actions after which a turn is about to settle. -/
def isExit (c : TurnCall) : TurnAction → Bool
  | .markedUncertain _ | .generationChanged | .releasedTurnObservation _ => true
  | .checkedCancellation .ACTIVE true => isThread c
  | .checkedCancellation _ _ | .dispatched _ | .returned _ | .armedTurnObservation _ | .observed _
  | .committed | .polled _ | .routeRead _ | .delivered _ _ | .failedResponse _ | .registered _ _
  | .reserved _ _ | .rolledBack _ => false

/-- No such action. -/
def Clean (c : TurnCall) (trace : List TurnAction) : Prop := ∀ action ∈ trace, isExit c action = false

/-- A trace stays clean where no exit is added. -/
theorem Clean.snoc (h : Clean c trace) (haction : isExit c action = false) :
    Clean c (trace ++ [action]) := by
  intro a ha
  rcases List.mem_append.mp ha with ha | ha
  · exact h a ha
  · rw [List.mem_singleton.mp ha]
    exact haction

/-- A clean trace with a certain latest write. -/
def Writing (c : TurnCall) (write : Option CdpWriteLifecycleState) : TurnInvariant :=
  fun trace _ => Clean c trace ∧ latestWrite trace = write

/-- The ways in which a turn can end by a throw once it is committed. -/
inductive Ends (c : TurnCall) : Interrupt ThrownError → TurnRun → Prop
  | pending {run : TurnRun} : Ends c .pending run
  | marked {run : TurnRun} {error : ThrownError} {before : List TurnAction}
      (hclean : Clean c before) (htrace : run.trace = before ++ [.markedUncertain c.lease]) :
      Ends c (.thrown error) run
  | generationChanged {run : TurnRun} {error : ThrownError} {before : List TurnAction}
      (hclean : Clean c before) (htrace : run.trace = before ++ [.generationChanged])
      (herror : error.isInstance .runtimeGenerationChanged = true) : Ends c (.thrown error) run
  | cancelled {run : TurnRun} {error : ThrownError} {before : List TurnAction}
      (hclean : Clean c before) (htrace : run.trace = before ++ [.checkedCancellation .ACTIVE true])
      (hthread : isThread c = true) (hwrite : latestWrite run.trace = some .ACTIVE)
      (herror : error.isInstance .runtimeGenerationChanged = false) : Ends c (.thrown error) run
  | terminal {run : TurnRun} {error : ThrownError} (hclean : Clean c run.trace)
      (hwrite : isTerminal (latestWrite run.trace) = true) : Ends c (.thrown error) run

/-! ## Before the write has ended -/

variable {write : Option CdpWriteLifecycleState} {I : TurnInvariant}

/-- What no invariant looks at is no exit. -/
theorem isExit_of_isNeutral (h : action.isNeutral = true) :
    isExit c action = false ∧ observedWrite? action = none := by
  cases action <;> simp_all [TurnAction.isNeutral, isExit, observedWrite?]

/-- Nor is the delivery. -/
theorem isExit_of_isDelivery (h : action.isDelivery = true) :
    isExit c action = false ∧ observedWrite? action = none := by
  cases action <;> simp_all [TurnAction.isDelivery, isExit, observedWrite?]

/-- The write stays what it was. -/
theorem Writing.snoc {state state' : Option ResponseDeliveryState}
    (h : Writing c write trace state)
    (haction : isExit c action = false ∧ observedWrite? action = none) :
    Writing c write (trace ++ [action]) state' :=
  ⟨h.1.snoc haction.1, (latestWrite_snoc haction.2).trans h.2⟩

/-- What no invariant looks at leaves it. -/
theorem writing_neutral : Neutral (Writing c write) :=
  fun _ _ _ haction h => h.snoc (isExit_of_isNeutral haction)

/-- The write is no matter of the response. -/
theorem writing_indifferent : Indifferent (Writing c write) where
  state _ _ _ h := h
  delivery _ _ _ haction h := h.snoc (isExit_of_isDelivery haction)

/-- A clean trace may end in any of the ways that an invariant has to allow. -/
theorem exits_of_clean (hclean : ∀ trace state, I trace state → Clean c trace) :
    Exits c I (Ends c) where
  pending _ _ := .pending
  failClosed _ _ hI := .marked (hclean _ _ hI) rfl
  rethrow _ _ herror hI := .generationChanged (hclean _ _ hI) rfl herror

/-- So may a turn that is writing. -/
theorem writing_exits : Exits c (Writing c write) (Ends c) := exits_of_clean fun _ _ h => h.1

/-- Once the write has ended, anything may be thrown. -/
theorem writing_throws (h : isTerminal write = true) : Throws (Writing c write) (Ends c) :=
  fun _ _ hI => .terminal hI.1 (by rw [hI.2]; exact h)

/-- Reading the observation makes its write the latest. -/
theorem wp_readTurnObservation {run : TurnRun} (hrun : On (Writing c write) run) :
    wp (readTurnObservation c) (fun snapshot => On (Writing c snapshot.write)) (Ends c) run := by
  simp only [readTurnObservation, wp_bind, wp_ask]
  cases c.environment.getTurnObservation run.asked with
  | ok snapshot => exact ⟨hrun.1.snoc rfl, latestWrite_observed snapshot⟩
  | error error =>
    have hasked : On (Writing c write) { run with asked := run.asked + 1 } := hrun
    dsimp only
    rw [wp_ite]
    split
    · exact writing_exits.wp_rethrow ‹_› hasked
    · exact writing_exits.wp_failClosed hasked

/-! ## A poll -/

/-- What a poll comes to: a clean trace, and a result only where the write has ended. -/
def Polled (c : TurnCall) (outcome : PollOutcome) (run : TurnRun) : Prop :=
  Clean c run.trace ∧ ∀ result, outcome = .done result → isTerminal (latestWrite run.trace) = true

/-- A poll may come to anything once the write has ended. -/
theorem On.polled {run : TurnRun} (h : On (Writing c write) run) (hwrite : isTerminal write = true)
    (outcome : PollOutcome) : Polled c outcome run :=
  ⟨h.1, fun _ _ => by rw [h.2]; exact hwrite⟩

/-- It may always go on. -/
theorem On.polled_again {run : TurnRun} (h : On (Writing c write) run) (state : PollState) :
    Polled c (.again state) run :=
  ⟨h.1, fun _ heq => nomatch heq⟩

/-- Once the write has ended, what is left of a poll may throw and return as it likes. -/
theorem polled_of_maintains {x : TurnM PollOutcome} (hwrite : isTerminal write = true)
    (hx : Maintains (On (Writing c write)) (Ends c) x) {run : TurnRun}
    (hrun : On (Writing c write) run) : wp x (Polled c) (Ends c) run :=
  wp_mono (hx run hrun) (fun outcome _ h => h.polled hwrite outcome) fun _ _ h => h

/-- A failed write has ended. -/
theorem wp_throwWriteFailed {run : TurnRun} (hrun : On (Writing c (some .FAILED)) run) :
    wp (throwWriteFailed c) (Polled c) (Ends c) run :=
  polled_of_maintains rfl
    (maintains_throwOrFailClosed writing_exits (writing_throws rfl) _) hrun

/-- The route is read again only after the write has ended, and then the write once more. -/
theorem wp_revalidate (state : PollState) (freshLocator : ConversationLocator) {run : TurnRun}
    (hrun : On (Writing c write) run) :
    wp (revalidate c state freshLocator) (Polled c) (Ends c) run := by
  rw [revalidate, wp_bind]
  refine wp_mono (maintains_readCurrentRoute writing_neutral writing_exits state freshLocator _ hrun)
    (fun found run hrun => ?_) fun _ _ h => h
  obtain ⟨current, state⟩ := found
  dsimp only
  rw [wp_bind]
  refine wp_mono (wp_readTurnObservation hrun) (fun snapshot run hrun => ?_) fun _ _ h => h
  rw [wp_bind, wp_isAborted, wp_bind]
  refine wp_mono (maintains_followResponse writing_indifferent writing_exits snapshot _ _ hrun)
    (fun _ run hrun => ?_) fun _ _ h => h
  rcases hwrite : snapshot.write with _ | _ | _ | _ <;> rw [hwrite] at hrun <;> dsimp only
  · exact writing_exits.wp_failClosed hrun
  · exact writing_exits.wp_failClosed hrun
  · refine polled_of_maintains rfl ?_ hrun
    refine maintains_isAborted.bind fun aborted => .ite (fun _ => ?_) fun _ => ?_
    · exact maintains_throwOrFailClosed writing_exits (writing_throws rfl) _
    cases current with
    | some locator =>
      exact maintains_finishFresh writing_indifferent writing_neutral writing_exits
        (writing_throws rfl) state locator
    | none =>
      refine (maintains_ask _).bind fun now => .ite (fun _ => ?_) fun _ => maintains_pure _
      exact maintains_throwConversationNotCreated writing_exits (writing_throws rfl) _
  · exact wp_throwWriteFailed hrun

/-- The last test for a cancellation is reached with an ended write, or in a thread's turn. -/
structure AtLastTest (c : TurnCall) (lifecycle : CdpWriteLifecycleState)
    (write : Option CdpWriteLifecycleState) : Prop where
  ended : isThread c = false → write = some .FINISHED
  active : isThread c = true → lifecycle = .ACTIVE ∧ write = some .ACTIVE

/-- What follows the last test where the turn is not cancelled. -/
theorem wp_settled {state : PollState} {lifecycle : CdpWriteLifecycleState} {now : Rat}
    {run : TurnRun} (hrun : On (Writing c write) run) (htest : AtLastTest c lifecycle write) :
    wp (match state.freshLocator with
      | some freshLocator => revalidate c state freshLocator
      | none =>
        if lifecycle = .FINISHED ∧ c.options.freshConversationTimeoutMs ≤ state.sinceObserved now
        then throwConversationNotCreated c state.lastFreshRouteError
        else pure (.again state)) (Polled c) (Ends c) run := by
  cases state.freshLocator with
  | some freshLocator => exact wp_revalidate state freshLocator hrun
  | none =>
    dsimp only
    rw [wp_ite]
    split
    · rename_i htimeout
      have hended : write = some .FINISHED := htest.ended <| by
        by_contra hthread
        rw [(htest.active (by simpa using hthread)).1] at htimeout
        cases htimeout.1
      rw [hended] at hrun
      exact polled_of_maintains rfl
        (maintains_throwConversationNotCreated writing_exits (writing_throws rfl) _) hrun
    · exact hrun.polled_again state

/-- What the last test for a cancellation finds. -/
theorem wp_settle (state : PollState) (lifecycle : CdpWriteLifecycleState) (now : Rat)
    {run : TurnRun} (hrun : On (Writing c write) run) (htest : AtLastTest c lifecycle write) :
    wp (settle c state lifecycle now) (Polled c) (Ends c) run := by
  rw [settle, wp_bind, wp_isAborted, wp_bind, wp_record]
  cases hcancelled : (state.callerCancelled || abortedAt c run.asked) with
  | false =>
    have hlog : On (Writing c write) (run.log (.checkedCancellation lifecycle false)) :=
      hrun.snoc ⟨by cases lifecycle <;> rfl, rfl⟩
    exact wp_settled hlog htest
  | true =>
    cases hthread : isThread c with
    | false =>
      have hlog : On (Writing c write) (run.log (.checkedCancellation lifecycle true)) :=
        hrun.snoc ⟨by cases lifecycle <;> simp [isExit, hthread], rfl⟩
      rw [htest.ended hthread] at hlog
      exact polled_of_maintains rfl
        (maintains_throwOrFailClosed writing_exits (writing_throws rfl) _) hlog
    | true =>
      obtain ⟨rfl, rfl⟩ := htest.active hthread
      have hproject : isProject c = false := by
        rw [isThread] at hthread
        rw [isProject]
        split at hthread <;> simp_all
      simp only [if_true, throwOrFailClosed, hproject, Bool.false_eq_true, if_false, wp_fail]
      exact .cancelled hrun.1 rfl hthread ((latestWrite_snoc rfl).trans hrun.2)
        (by simp [operationAborted])

/-- A write that is active is tested in a thread's turn only. -/
theorem wp_settleUnlessActive (state : PollState) (lifecycle : CdpWriteLifecycleState) (now : Rat)
    {run : TurnRun} (hrun : On (Writing c write) run) (htest : AtLastTest c lifecycle write) :
    wp (settleUnlessActive c state lifecycle now) (Polled c) (Ends c) run := by
  rw [settleUnlessActive, wp_ite]
  split
  · exact hrun.polled_again state
  · exact wp_settle state lifecycle now hrun htest

/-- The turns of new conversations look for the route before that test. -/
theorem wp_lookForConversation (state : PollState) (lifecycle : CdpWriteLifecycleState) (now : Rat)
    {run : TurnRun} (hrun : On (Writing c (some lifecycle)) run)
    (htarget : isThread c = true → lifecycle = .ACTIVE)
    (hfresh : lifecycle = .ACTIVE ∨ lifecycle = .FINISHED) :
    wp (lookForConversation c state lifecycle now) (Polled c) (Ends c) run := by
  rw [lookForConversation, wp_ite]
  -- A turn of a thread knows its conversation and does not look.
  split
  · rename_i hlook
    have hthread : isThread c = false := by simpa using (Bool.and_eq_true_iff.mp hlook).1
    rw [wp_bind]
    refine wp_mono (maintains_readFreshRoute writing_neutral writing_exits state lifecycle _ hrun)
      (fun state run hrun => ?_) fun _ _ h => h
    rw [wp_bind]
    refine wp_mono (wp_readTurnObservation hrun) (fun snapshot run hrun => ?_) fun _ _ h => h
    rw [wp_bind, wp_isAborted, wp_bind]
    refine wp_mono (maintains_followResponse writing_indifferent writing_exits snapshot _ _ hrun)
      (fun _ run hrun => ?_) fun _ _ h => h
    -- Each write ends the turn or takes it to its next poll.
    rcases hwrite : snapshot.write with _ | _ | _ | _ <;> rw [hwrite] at hrun <;> dsimp only
    · exact writing_exits.wp_failClosed hrun
    · rw [wp_ite]
      split
      · exact hrun.polled_again _
      · exact hrun.polled_again _
    · exact wp_settleUnlessActive state lifecycle now hrun
        ⟨fun _ => rfl, fun h => absurd h (by simp [hthread])⟩
    · exact wp_throwWriteFailed hrun
  · rename_i hknown
    -- With the conversation known the write alone decides.
    rcases hfresh with rfl | rfl
    · cases hthread : isThread c with
      | true =>
        exact wp_settleUnlessActive state .ACTIVE now hrun
          ⟨fun h => absurd h (by simp [hthread]), fun _ => ⟨rfl, rfl⟩⟩
      | false =>
        have hlocator : state.freshLocator.isSome = true := by
          rw [hthread] at hknown
          simpa [Option.isSome_iff_ne_none] using hknown
        rw [settleUnlessActive, wp_ite, if_pos (by simp [hthread, hlocator])]
        exact hrun.polled_again state
    · have hthread : isThread c = false := by
        by_contra hthread
        cases htarget (by simpa using hthread)
      exact wp_settleUnlessActive state .FINISHED now hrun
        ⟨fun _ => rfl, fun h => absurd h (by simp [hthread])⟩

/-- A poll that found the write. -/
theorem wp_pollWrite (state : PollState) (lifecycle : CdpWriteLifecycleState) (now : Rat)
    {run : TurnRun} (hrun : On (Writing c (some lifecycle)) run) :
    wp (pollWrite c state lifecycle now) (Polled c) (Ends c) run := by
  unfold pollWrite
  rw [wp_bind]
  refine wp_mono (maintains_applyResponseDeadline writing_indifferent.responseClosed writing_exits
    _ _ _ hrun) (fun _ run hrun => ?_) fun _ _ h => h
  cases lifecycle with
  | ACTIVE =>
    dsimp only
    rw [wp_ite]
    split
    · exact writing_exits.wp_failClosed hrun
    · exact wp_lookForConversation state .ACTIVE now hrun (fun _ => rfl) (.inl rfl)
  | FAILED => exact wp_throwWriteFailed hrun
  | FINISHED =>
    dsimp only
    rcases htarget : c.target with threadHandle | _ | projectLocator <;> dsimp only
    · exact polled_of_maintains rfl
        (maintains_finishThread writing_indifferent (writing_throws rfl) state threadHandle) hrun
    · exact wp_lookForConversation state .FINISHED now hrun (by simp [isThread, htarget])
        (.inr rfl)
    · exact wp_lookForConversation state .FINISHED now hrun (by simp [isThread, htarget])
        (.inr rfl)

/-- One poll: a turn that is settled by it has seen the end of the write, or has ended in one of the
ways that a turn can end. -/
theorem wp_poll (state : PollState) {run : TurnRun} (hrun : Clean c run.trace) :
    wp (poll c state) (Polled c) (Ends c) run := by
  rw [poll, wp_bind, wp_isAborted, wp_bind, wp_record, wp_bind, wp_ask, wp_bind]
  have hpolled : On (Writing c (latestWrite run.trace))
      { run.log (.polled (abortedAt c run.asked)) with asked := run.asked + 1 } :=
    ⟨hrun.snoc rfl, latestWrite_snoc rfl⟩
  refine wp_mono (wp_readTurnObservation hpolled) (fun snapshot run hrun => ?_) fun _ _ h => h
  rw [wp_bind]
  refine wp_mono (maintains_followResponse writing_indifferent writing_exits snapshot _ _ hrun)
    (fun _ run hrun => ?_) fun _ _ h => h
  cases hwrite : snapshot.write with
  | none =>
    dsimp only
    rw [wp_ite]
    split
    · exact writing_exits.wp_failClosed hrun
    · exact hrun.polled_again _
  | some lifecycle =>
    rw [hwrite] at hrun
    exact wp_pollWrite _ lifecycle _ hrun

/-- A turn that has its result has seen the end of its write. -/
def Finished (c : TurnCall) (run : TurnRun) : Prop :=
  Clean c run.trace ∧ isTerminal (latestWrite run.trace) = true

/-- The polls end with the write, or with a throw. -/
theorem wp_pollLoop (fuel : ℕ) (state : PollState) {run : TurnRun} (hrun : Clean c run.trace) :
    wp (pollLoop c fuel state) (fun _ => Finished c) (Ends c) run := by
  induction fuel generalizing state run with
  | zero => exact .pending
  | succ fuel ih =>
    rw [pollLoop, wp_bind]
    refine wp_mono (wp_poll state hrun) (fun outcome run hpolled => ?_) fun _ _ h => h
    cases outcome with
    | done result => exact ⟨hpolled.1, hpolled.2 result rfl⟩
    | again state => exact ih state hpolled.1

/-! ## Before the commit point -/

/-- A clean trace of a turn that is not committed. -/
def Uncommitted (c : TurnCall) : TurnInvariant :=
  fun trace _ => Clean c trace ∧ .committed ∉ trace

/-- Up to the commit point the turn may end as it likes. -/
def EndsEarly (_ : Interrupt ThrownError) (run : TurnRun) : Prop := .committed ∉ run.trace

/-- A turn stays uncommitted. -/
theorem Uncommitted.snoc {state : Option ResponseDeliveryState} (h : Uncommitted c trace state)
    (haction : isExit c action = false) (hne : action ≠ .committed) :
    Uncommitted c (trace ++ [action]) state :=
  ⟨h.1.snoc haction, by simpa [h.2] using Ne.symm hne⟩

/-- What no invariant looks at commits nothing. -/
theorem uncommitted_neutral : Neutral (Uncommitted c) := by
  intro trace state action haction h
  refine h.snoc (isExit_of_isNeutral haction).1 ?_
  rintro rfl
  cases haction

/-- Before the commit point the turn may fail closed. -/
theorem uncommitted_exits : Exits c (Uncommitted c) EndsEarly where
  pending _ h := h.2
  failClosed _ _ h := by simpa [EndsEarly, TurnRun.log] using h.2
  rethrow _ _ _ h := by simpa [EndsEarly, TurnRun.log] using h.2

/-- It may throw. -/
theorem uncommitted_throws : Throws (Uncommitted c) EndsEarly := fun _ _ h => h.2

/-- And observe. -/
theorem uncommitted_observing : Observing (Uncommitted c) :=
  fun _ _ _ h => h.snoc rfl (by simp)

/-- It may insert the prompt. -/
theorem maintains_insertWhileIdle (node : Option Rat) :
    Maintains (On (Uncommitted c)) EndsEarly (insertWhileIdle c node) := by
  have hstart : Maintains (On (Uncommitted c)) EndsEarly (startResponse c) :=
    .onlyIf fun _ => Maintains.bind (maintains_assertNoObservedPreSubmitWrite uncommitted_observing
      uncommitted_exits uncommitted_throws false) fun _ => maintains_modify fun _ h => h
  exact fun _ => wp_insertWhileIdle uncommitted_exits uncommitted_throws uncommitted_neutral
    uncommitted_observing uncommitted_exits uncommitted_throws hstart node

/-! ## The submission -/

/-- A clean trace. -/
def Submitting (c : TurnCall) : TurnInvariant := fun trace _ => Clean c trace

/-- Once committed, what no invariant looks at is no exit either. -/
theorem submitting_neutral : Neutral (Submitting c) :=
  fun _ _ _ haction h => h.snoc (isExit_of_isNeutral haction).1

/-- A turn that submits may end in the ways of a committed turn. -/
theorem submitting_exits : Exits c (Submitting c) (Ends c) := exits_of_clean fun _ _ h => h

/-! ## A turn -/

/-- The turn ended early, or in one of the ways a committed turn can end. -/
def TurnEnds (c : TurnCall) (i : Interrupt ThrownError) (run : TurnRun) : Prop :=
  .committed ∉ run.trace ∨ Ends c i run

/-- The turn, from its armed observation on. -/
theorem wp_runTurn (fuel : ℕ) (expectedRoute : RouteExpectation) (node : Option Rat) {run : TurnRun}
    (hrun : On (Uncommitted c) run) :
    wp (runTurn c fuel expectedRoute node) (fun _ => Finished c) (TurnEnds c) run := by
  rw [runTurn, wp_bind]
  refine wp_mono (maintains_insertWhileIdle node _ hrun) (fun form run hrun => ?_)
    fun _ _ h => .inl h
  rw [wp_bind, wp_record, wp_bind]
  have hcommitted : On (Submitting c) (run.log .committed) := hrun.1.snoc rfl
  refine wp_mono
    (maintains_submit submitting_neutral submitting_exits expectedRoute node form _ hcommitted)
    (fun _ run hrun => ?_) fun _ _ h => .inr h
  rw [wp_bind, wp_isAborted, waitForTurnOutcome, wp_bind, wp_ask]
  exact wp_mono (wp_pollLoop fuel _ hrun) (fun _ _ h => h) fun _ _ h => .inr h

/-! ## The release -/

variable {run : TurnRun} {released : Option ThrownError}

/-- The release is no observation. -/
theorem latestWrite_released :
    latestWrite (trace ++ [.releasedTurnObservation released]) = latestWrite trace :=
  latestWrite_snoc rfl

/-- A clean trace has no exit in it. -/
theorem Clean.not_mem (h : Clean c trace) (haction : isExit c action = true) : action ∉ trace :=
  fun hmem => by simp [h action hmem] at haction

/-- Nothing but the exit and the release stands out in the trace of a turn that threw. -/
theorem mem_released {before : List TurnAction} {exit : TurnAction} (h : Clean c before)
    (haction : isExit c action = true) :
    action ∈ before ++ [exit] ++ [.releasedTurnObservation released] ↔
      action = exit ∨ action = .releasedTurnObservation released := by
  simp [h.not_mem haction]

/-- Another exit comes before any cancellation that loses the write. -/
theorem not_cancelled_of_exit {before : List TurnAction} {exit : TurnAction} (h : Clean c before)
    (hexit : exit ≠ .checkedCancellation .ACTIVE true) (hthread : isThread c = true) :
    .checkedCancellation .ACTIVE true ∉
      before ++ [exit] ++ [.releasedTurnObservation released] := by
  have haction : isExit c (.checkedCancellation .ACTIVE true) = true := hthread
  rw [mem_released h haction]
  simpa using Ne.symm hexit

/-- The errors that a release threw. -/
theorem released_mem {before : List TurnAction} {exit : TurnAction} (h : Clean c before)
    (hexit : ∀ error, exit ≠ .releasedTurnObservation (some error)) {error : ThrownError} :
    .releasedTurnObservation (some error) ∈
      before ++ [exit] ++ [.releasedTurnObservation released] ↔ released = some error := by
  have haction : isExit c (.releasedTurnObservation (some error)) = true := rfl
  rw [mem_released h haction, or_iff_right (Ne.symm (hexit error)),
    TurnAction.releasedTurnObservation.injEq]
  exact eq_comm

/-- A turn whose write has ended. -/
theorem owns_iff_of_terminal (hclean : Clean c run.trace)
    (hwrite : isTerminal (latestWrite run.trace) = true)
    (outcome : Except (Interrupt ThrownError) TurnResult) :
    OwnsWrite c outcome (run.trace ++ [.releasedTurnObservation released]) ↔
      KeepsOwnership c (run.trace ++ [.releasedTurnObservation released]) := by
  have hwrite' : isTerminal
      (latestWrite (run.trace ++ [.releasedTurnObservation released])) = true := by
    rw [latestWrite_released]
    exact hwrite
  refine iff_of_true (.inl hwrite') ⟨fun hthread hcancelled => ?_, fun _ _ _ _ => hwrite'⟩
  have hexit : isExit c (.checkedCancellation .ACTIVE true) = true := hthread
  simp [hclean.not_mem hexit] at hcancelled

/-- A turn that ended by a throw, after the release, whose own throw replaces it. -/
theorem Ends.owns_iff {error : ThrownError} (h : Ends c (.thrown error) run)
    (released : Option ThrownError) :
    OwnsWrite c (.error (.thrown (released.getD error)))
        (run.trace ++ [.releasedTurnObservation released]) ↔
      KeepsOwnership c (run.trace ++ [.releasedTurnObservation released]) := by
  cases h with
  | terminal hclean hwrite => exact owns_iff_of_terminal hclean hwrite _
  | marked hclean htrace =>
    rw [htrace]
    refine iff_of_true (.inr (.inl (by simp))) ⟨fun hthread hmem => ?_, fun _ _ _ hmem => ?_⟩
    · exact absurd hmem (not_cancelled_of_exit hclean (by simp) hthread)
    · have hchanged : isExit c .generationChanged = true := rfl
      simpa using (mem_released hclean hchanged).mp hmem
  | generationChanged hclean htrace herror =>
    rw [htrace]
    have hunmarked : isExit c (.markedUncertain c.lease) = true := rfl
    rw [OwnsWrite, mem_released hclean hunmarked]
    by_cases hchanged : (released.getD error).isInstance .runtimeGenerationChanged = true
    · refine iff_of_true (.inr (.inr ⟨_, rfl, hchanged⟩)) ⟨fun hthread hmem => ?_, ?_⟩
      · exact absurd hmem (not_cancelled_of_exit hclean (by simp) hthread)
      · intro error' hmem herror'
        rw [(released_mem hclean (by simp)).mp hmem, Option.getD_some, herror'] at hchanged
        cases hchanged
    · -- the release threw another error
      obtain ⟨error', rfl⟩ : ∃ error', released = some error' := by
        cases released with
        | none => exact absurd herror hchanged
        | some error' => exact ⟨error', rfl⟩
      rw [Option.getD_some] at hchanged
      have hlost : ∀ e : ThrownError, error' = e →
          e.isInstance .runtimeGenerationChanged = false := by
        rintro _ rfl
        simpa using hchanged
      constructor
      · rintro (hwrite | hmarked | ⟨e, heq, hinstance⟩)
        · exact ⟨fun hthread hmem => absurd hmem (not_cancelled_of_exit hclean (by simp) hthread),
            fun _ _ _ _ => hwrite⟩
        · simp at hmarked
        · cases heq
          exact absurd hinstance hchanged
      · intro hkeeps
        refine .inl (hkeeps.released error' (by simp) (hlost _ rfl) (by simp))
  | cancelled hclean htrace hthread hwrite herror =>
    have hwrite' : latestWrite (run.trace ++ [.releasedTurnObservation released]) = some .ACTIVE := by
      rw [latestWrite_released]
      exact hwrite
    rw [OwnsWrite, hwrite', htrace]
    have hunmarked : isExit c (.markedUncertain c.lease) = true := rfl
    rw [mem_released hclean hunmarked]
    constructor
    · rintro (hended | hmarked | ⟨e, heq, hinstance⟩)
      · cases hended
      · simp at hmarked
      · cases heq
        cases released with
        | none => simp [herror] at hinstance
        | some error' =>
          refine ⟨fun _ _ => ⟨error', by simp, hinstance⟩, fun e hmem hne => ?_⟩
          rw [Option.some.inj ((released_mem hclean (by simp)).mp hmem)] at hinstance
          simp [hne] at hinstance
    · intro hkeeps
      obtain ⟨error', hmem, hinstance⟩ := hkeeps.cancelled hthread (by simp)
      rw [(released_mem hclean (by simp)).mp hmem]
      exact .inr (.inr ⟨error', rfl, hinstance⟩)

/-- A turn that ended by a throw and rejects with a changed generation: only the ways in which it can
have ended that are not about the generation need the release to have thrown it. -/
theorem Ends.hasItFromPort {error : ThrownError} (h : Ends c (.thrown error) run)
    (released : Option ThrownError) :
    HasItFromPort c (.error (.thrown (released.getD error)))
      (run.trace ++ [.releasedTurnObservation released]) := by
  rintro _ ⟨⟩ hchanged
  cases h with
  | terminal hclean hwrite =>
    rw [latestWrite_released]
    exact .inl hwrite
  | marked hclean htrace => exact .inr (.inl (by simp [htrace]))
  | generationChanged hclean htrace herror =>
    exact .inr (.inr ⟨.generationChanged, by simp [htrace], rfl⟩)
  | cancelled hclean htrace hthread hwrite herror =>
    cases released with
    | none => simp [herror] at hchanged
    | some error' => exact .inr (.inr ⟨.releasedTurnObservation (some error'), by simp, hchanged⟩)

/-- What a turn settles with, once it is committed. -/
def SettlesOwned (c : TurnCall) (outcome : Except (Interrupt ThrownError) TurnResult)
    (run : TurnRun) : Prop :=
  .committed ∈ run.trace →
    (OwnsWrite c outcome run.trace ↔ KeepsOwnership c run.trace) ∧
      HasItFromPort c outcome run.trace

/-- A turn that has its result rejects with what the release throws. -/
theorem Finished.settlesOwned (h : Finished c run) (released : Option ThrownError)
    (outcome : Except (Interrupt ThrownError) TurnResult) (asked : ℕ) :
    SettlesOwned c outcome { run.log (.releasedTurnObservation released) with asked } :=
  fun _ => ⟨owns_iff_of_terminal h.1 h.2 _, fun _ _ _ => .inl (by
    show isTerminal (latestWrite (run.trace ++ [.releasedTurnObservation released])) = true
    rw [latestWrite_released]
    exact h.2)⟩

/-- The whole execution, with the release of its `finally`. -/
theorem wp_executeScheduled (fuel : ℕ) (hrun : run.trace = []) :
    wp (executeScheduled c fuel) (fun result => SettlesOwned c (.ok result))
      (fun i run => i ≠ .pending → SettlesOwned c (.error i) run) run := by
  have hbefore : ∀ {α : Type} {x : TurnM α},
      Maintains (On (Uncommitted c)) (EndsBefore c (Uncommitted c)) x →
      Maintains (On (Uncommitted c)) EndsEarly (beforeCommit x) :=
    fun hx => maintains_beforeCommit uncommitted_exits uncommitted_throws hx
  have hstart : On (Uncommitted c) run := by
    simp [On, Uncommitted, Clean, hrun]
  -- A turn that never committed owns no write, whatever it settles with.
  have hearly : ∀ i run, EndsEarly i run → i ≠ .pending → SettlesOwned c (.error i) run :=
    fun _ _ h _ hcommitted => absurd hcommitted h
  rw [executeScheduled, wp_bind]
  refine wp_mono (maintains_resolveExpectedRoute uncommitted_throws _ hstart)
    (fun expectedRoute run hrun => ?_) hearly
  rw [wp_bind]
  refine wp_mono (hbefore (maintains_prepareComposer uncommitted_neutral expectedRoute) _ hrun)
    (fun node run hrun => ?_) hearly
  rw [wp_bind]
  refine wp_mono (hbefore (maintains_armTurnObservation uncommitted_neutral) _ hrun)
    (fun _ run hrun => ?_) hearly
  rw [wp_finalize]
  refine wp_mono (wp_runTurn fuel expectedRoute node hrun) (fun result run hrun => ?_)
    fun i run hends => ?_
  · rw [releaseTurnObservation, wp_bind, wp_ask]
    rcases c.environment.releaseTurnObservation run.asked with error | _
    · exact fun _ => hrun.settlesOwned (some error) _ _
    · exact hrun.settlesOwned none _ _
  · cases i with
    | pending => exact fun h => absurd rfl h
    | thrown error =>
      -- The release may throw its own error in place of the turn's.
      have hsettled : ∀ released, SettlesOwned c (.error (.thrown (released.getD error)))
          { run.log (.releasedTurnObservation released) with asked := run.asked + 1 } := by
        intro released hcommitted
        rcases hends with huncommitted | hends
        · simp [TurnRun.log, huncommitted] at hcommitted
        · exact ⟨hends.owns_iff released, hends.hasItFromPort released⟩
      show wp (releaseTurnObservation c) _ _ run
      rw [releaseTurnObservation, wp_bind, wp_ask]
      rcases c.environment.releaseTurnObservation run.asked with error' | _
      · exact fun _ => hsettled (some error')
      · exact fun _ => hsettled none

/-- What was said of the execution, for its outcome and run. -/
theorem settlesOwned_of_executeScheduled {fuel : ℕ} {registry : ThreadRegistry}
    {outcome : Except (Interrupt ThrownError) TurnResult}
    (hrun : executeScheduled c fuel { registry } = (outcome, run))
    (hsettled : outcome ≠ .error .pending) : SettlesOwned c outcome run := by
  have hstart : ({ registry } : TurnRun).trace = [] := rfl
  have hwp := wp_apply (wp_executeScheduled (c := c) fuel hstart)
  rw [hrun] at hwp
  cases outcome with
  | ok result => exact hwp
  | error i => exact hwp fun h => hsettled (by rw [h])

/-- When a committed turn settles, it owns its write exactly where it keeps the ownership: it has
seen the end of the write, has marked its lease, or says that the lease is gone. -/
theorem ownsWrite_iff_keepsOwnership (c : TurnCall) (fuel : ℕ) (registry : ThreadRegistry)
    (outcome : Except (Interrupt ThrownError) TurnResult) (run : TurnRun)
    (hrun : executeScheduled c fuel { registry } = (outcome, run))
    (hsettled : outcome ≠ .error .pending) (hcommitted : .committed ∈ run.trace) :
    OwnsWrite c outcome run.trace ↔ KeepsOwnership c run.trace :=
  (settlesOwned_of_executeScheduled hrun hsettled hcommitted).1

/-- A turn of a thread whose caller aborts it in the sleep after its first poll. The first poll
finds the write active. -/
def cancelledTurn (secondPoll : CdpWriteLifecycleState) : TurnCall where
  environment :=
    { smoothEnvironment fun question =>
        { prepareCount := 0, response := none
          write :=
            if question < 8 then none
            else if question < 11 then some .ACTIVE
            else some secondPoll } with
      abort := some (10, none) }
  parseUrl _ := none
  target := .thread "tw_a"
  text := Text.of "hi"
  lease := ⟨1, ⟨7, "a"⟩⟩
  listening := false

end TurnExecutor

end Threadwire
