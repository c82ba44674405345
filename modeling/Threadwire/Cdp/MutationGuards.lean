import Threadwire.Cdp.MutationGuardedChromeRemoteInterfaceSession
import Threadwire.Machine.Trace

/-!
# Every mutation is checked

In any interleaving of operations, a mutating command is sent only after the `beforeMutation` that
was called for it in its operation has succeeded, while the operation's signal is not aborted, and,
for a focus or a mouse command, after the validation that follows the check. An operation with a
check that failed sends no mutating command after it, and rejects.

The law is about one operation at a time, so an operation relies on the others for no more than that
they log under their own number, and promises the same.
-/

namespace Threadwire

namespace MutationGuardedChromeRemoteInterfaceSession

open Coroutine ChromeRemoteInterfaceSession

/-- The mutating commands of a method. A script or a function is one where the method clicks or
creates with it. -/
def mutates : SessionMethodName → InterceptedCommand → Bool
  | .clickTurnSendButton, .callFunctionOn _ _ | .clickExistingTurnSendButton, .callFunctionOn _ _ =>
    true
  | _, .callFunctionOn _ _ => false
  | .createProjectThroughUi, .evaluate _ => true
  | _, .evaluate _ => false
  | _, .navigate _ | _, .reload | _, .focus _ | _, .insertText _ | _, .dispatchKeyEvent _
  | _, .dispatchMouseEvent _ => true

/-- The commands that are validated after their check. -/
def isValidated : InterceptedCommand → Bool
  | .focus _ | .dispatchMouseEvent _ => true
  | .navigate _ | .reload | .insertText _ | .dispatchKeyEvent _ | .evaluate _
  | .callFunctionOn _ _ => false

/-- The command's own check has succeeded, and the operation has sent and checked nothing since;
where the command is validated, this has succeeded after the check. -/
def CheckedFor (operation : ℕ) (command : InterceptedCommand) (past : List SessionLogEntry) : Prop :=
  ∃ before since, past = before ++ .checked operation command :: since ∧
    (∀ other, .sent operation other ∉ since ∧ .checked operation other ∉ since) ∧
    (isValidated command = true → .validated operation command ∈ since)

/-- When an entry may be logged. -/
structure Guarded (past : List SessionLogEntry) (entry : SessionLogEntry) : Prop where
  sent : ∀ operation command method signal, entry = .sent operation command →
    .called operation method signal ∈ past → mutates method command = true →
      CheckedFor operation command past ∧ (∀ aborted ∈ signal, .aborted aborted ∉ past) ∧
        ∀ other, .refused operation other ∉ past
  returned : ∀ operation, entry = .returned operation → ∀ other, .refused operation other ∉ past

/-- What is neither sent nor returned may be logged at any time. -/
theorem guarded_of_ne {past : List SessionLogEntry} {entry : SessionLogEntry}
    (hsent : ∀ operation command, entry ≠ .sent operation command)
    (hreturned : ∀ operation, entry ≠ .returned operation) : Guarded past entry :=
  ⟨fun operation command _ _ heq => absurd heq (hsent operation command),
    fun operation heq => absurd heq (hreturned operation)⟩

variable {κ α β : Type}

/-! ## Rely and guarantee -/

/-- What an operation relies on. -/
structure Rely (operation : ℕ) (world world' : SessionWorld κ) : Prop where
  grown : ∃ entries, world'.log = world.log ++ entries ∧
    ∀ entry ∈ entries, entry.operation? ≠ some operation
  coherent : Coherent world → Coherent world'

/-- What an operation guarantees. -/
structure Guarantee (operation : ℕ) (world world' : SessionWorld κ) : Prop where
  grown : ∃ entries, world'.log = world.log ++ entries ∧
    ∀ entry ∈ entries, entry.operation? = some operation
  coherent : Coherent world → Coherent world'
  lawful : Trace.Lawful Guarded world.log → Trace.Lawful Guarded world'.log

variable {operation : ℕ} {world world' : SessionWorld κ}

instance : Std.Refl (Rely operation (κ := κ)) where
  refl _ := ⟨⟨[], (List.append_nil _).symm, fun _ h => nomatch h⟩, id⟩

instance : IsTrans (SessionWorld κ) (Rely operation) where
  trans := by
    rintro _ _ _ ⟨⟨entries, hlog, hother⟩, hcoherent⟩ ⟨⟨entries', hlog', hother'⟩, hcoherent'⟩
    refine ⟨⟨entries ++ entries', by rw [hlog', hlog, List.append_assoc], fun entry hmem => ?_⟩,
      hcoherent' ∘ hcoherent⟩
    exact (List.mem_append.mp hmem).elim (hother entry) (hother' entry)

instance : Std.Refl (Guarantee operation (κ := κ)) where
  refl _ := ⟨⟨[], (List.append_nil _).symm, fun _ h => nomatch h⟩, id, id⟩

instance : IsTrans (SessionWorld κ) (Guarantee operation) where
  trans := by
    rintro _ _ _ ⟨⟨entries, hlog, hown⟩, hcoherent, hlawful⟩
      ⟨⟨entries', hlog', hown'⟩, hcoherent', hlawful'⟩
    refine ⟨⟨entries ++ entries', by rw [hlog', hlog, List.append_assoc], fun entry hmem => ?_⟩,
      hcoherent' ∘ hcoherent, hlawful' ∘ hlawful⟩
    exact (List.mem_append.mp hmem).elim (hown entry) (hown' entry)

/-- What one operation guarantees, the others rely on. -/
theorem Guarantee.rely {other : ℕ} (hne : operation ≠ other) (h : Guarantee other world world') :
    Rely operation world world' := by
  obtain ⟨entries, hlog, hown⟩ := h.grown
  refine ⟨⟨entries, hlog, fun entry hmem heq => hne ?_⟩, h.coherent⟩
  rw [hown entry hmem] at heq
  exact (Option.some.inj heq).symm

/-- An entry of the operation that the law allows. -/
theorem guarantee_record {entry : SessionLogEntry} (hown : entry.operation? = some operation)
    (hlaw : Guarded world.log entry) :
    Guarantee operation world { world with log := world.log ++ [entry] } where
  grown := ⟨[entry], rfl, fun entry' hmem => by rwa [List.mem_singleton.mp hmem]⟩
  coherent h signal hmem := by
    rcases List.mem_append.mp hmem with hmem | hmem
    · exact h signal hmem
    · rw [← List.mem_singleton.mp hmem] at hown
      exact nomatch hown
  lawful h := Trace.lawful_snoc.mpr ⟨h, hlaw⟩

/-! ## Parts that send no mutation -/

/-- A step that logs nothing, or that the budget was consumed. -/
inductive QuietStep (operation : ℕ) (world world' : SessionWorld κ) : Prop
  | unlogged (hlog : world'.log = world.log) (haborted : world'.aborted = world.aborted)
  | consumed (hlog : world'.log = world.log ++ [.consumed operation])
      (haborted : world'.aborted = world.aborted)

/-- An assertion that survives what others do, and quiet steps. -/
structure Stable (operation : ℕ) (P : SessionWorld κ → Prop) : Prop where
  rely : ∀ world world', P world → Rely operation world world' → P world'
  quiet : ∀ world world', P world → QuietStep operation world world' → P world'

/-- A part whose steps are quiet. -/
def Quiet (operation : ℕ) (x : SessionM κ α) : Prop :=
  ∀ P, Stable operation P → ∀ world, P world →
    wp (Rely operation) (Guarantee operation) (fun _ => P) (fun _ => P) x world

/-- A quiet step guarantees what the operation guarantees. -/
theorem QuietStep.guarantee (h : QuietStep operation world world') :
    Guarantee operation world world' := by
  cases h with
  | unlogged hlog haborted =>
    refine ⟨⟨[], by rw [hlog, List.append_nil], fun _ h => nomatch h⟩, fun h signal hmem => ?_,
      fun h => by rwa [hlog]⟩
    rw [haborted]
    exact h signal (hlog ▸ hmem)
  | consumed hlog haborted =>
    have hrecord : Guarantee operation world { world with log := world.log ++ [.consumed operation] } :=
      guarantee_record rfl (guarded_of_ne (fun _ _ h => nomatch h) fun _ h => nomatch h)
    refine ⟨⟨[.consumed operation], hlog, fun entry hmem => ?_⟩, fun h signal hmem => ?_, fun h => ?_⟩
    · rw [List.mem_singleton.mp hmem]
      rfl
    · rw [haborted]
      exact hrecord.coherent h signal (hlog ▸ hmem)
    · rw [hlog]
      exact hrecord.lawful h

section Rules

variable {x : SessionM κ α}

/-- What only looks is quiet. -/
theorem quiet_of_inert (hx : Inert x) : Quiet operation x :=
  fun _ hP _ h => hx.wp hP.rely h

/-- A value takes no step. -/
theorem quiet_pure (a : α) : Quiet operation (pure a : SessionM κ α) := fun _ _ _ h => h

/-- Nor does an error. -/
theorem quiet_throw (error : ThrownError) : Quiet operation (throw error : SessionM κ α) :=
  fun _ _ _ h => h

/-- Reading the world changes nothing in it. -/
theorem quiet_get : Quiet operation (get : SessionM κ (SessionWorld κ)) :=
  fun _ _ world h => ⟨refl world, h⟩

/-- What an answer comes to takes no step. -/
theorem quiet_settle (outcome : Except ThrownError α) :
    Quiet operation (settle outcome : SessionM κ α) := by
  cases outcome with
  | ok a => exact quiet_pure a
  | error error => exact quiet_throw error

/-- A request is logged by whoever sends it, not by the asking. -/
theorem quiet_ask (request : SessionRequest) :
    Quiet operation (ask request : SessionM κ request.Answer) :=
  fun _ hP _ h _ _ hrely => hP.rely _ _ h hrely

/-- A change of the world that is a quiet step. -/
theorem quiet_modify {f : SessionWorld κ → SessionWorld κ}
    (hf : ∀ world, QuietStep operation world (f world)) :
    Quiet operation (modify f : SessionM κ PUnit) :=
  fun _ hP world h => ⟨(hf world).guarantee, hP.quiet _ _ h (hf world)⟩

/-- One quiet part after the other. -/
theorem Quiet.bind {f : α → SessionM κ β} (hx : Quiet operation x)
    (hf : ∀ a, Quiet operation (f a)) : Quiet operation (x >>= f) := by
  intro P hP world h
  rw [wp_bind]
  exact wp_mono (hx P hP world h) (fun a world' h' => hf a P hP world' h') fun _ _ h => h

/-- A part whose outcome is kept as a value. -/
theorem Quiet.attempt (hx : Quiet operation x) : Quiet operation (attempt x) := by
  intro P hP world h
  rw [wp_attempt]
  exact hx P hP world h

/-- Either branch is quiet. -/
theorem Quiet.ite {c : Prop} [Decidable c] {y : SessionM κ α} (hx : Quiet operation x)
    (hy : Quiet operation y) : Quiet operation (if c then x else y) := by
  split
  · exact hx
  · exact hy

/-- A part that may be skipped. -/
theorem Quiet.onlyIf {condition : Bool} {x : SessionM κ Unit} (hx : Quiet operation x) :
    Quiet operation (onlyIf condition x) :=
  hx.ite (quiet_pure ())

end Rules

section Parts

variable {config : ChromeSessionConfig} {session : SessionId} {signal : Option OperationSignal}

/-- A step of a callback that the caller has handed over. -/
theorem callback_quiet (step : CallbackStep κ) : Quiet operation (callback step) := by
  intro P hP world h
  have hquiet : QuietStep operation world { world with outer := (step world.outer).2 } :=
    .unlogged rfl rfl
  rw [callback, wp_bind, wp_get]
  refine ⟨refl world, ?_⟩
  rw [wp_bind]
  exact ⟨hquiet.guarantee, quiet_settle _ P hP _ (hP.quiet _ _ h hquiet)⟩

/-- All the steps of it. -/
theorem callbackSteps_quiet (steps : List (CallbackStep κ)) :
    Quiet operation (callbackSteps steps) := by
  induction steps with
  | nil => exact quiet_pure ()
  | cons step steps ih =>
    cases steps with
    | nil => exact callback_quiet step
    | cons next steps =>
      exact (callback_quiet step).bind fun _ => (quiet_ask _).bind fun _ => ih

/-- The operation's own locals are not in the log. -/
theorem setLocals_quiet (f : OperationLocals → OperationLocals) :
    Quiet operation (setLocals operation f : SessionM κ Unit) :=
  quiet_modify fun _ => .unlogged rfl rfl

/-- That the budget was consumed is the one entry that a quiet part may make. -/
theorem consumed_quiet : Quiet operation (record (.consumed operation) : SessionM κ Unit) :=
  quiet_modify fun _ => .consumed rfl rfl

/-- The validation of a notice reads the page and consumes the budget, and mutates nothing. -/
theorem validateNotice_quiet (selected : SelectedNotice) (descendants : List Rat)
    (initialQuads : List (List Rat)) (point : NoticePoint) (consume : List (CallbackStep κ)) :
    Quiet operation
      (validateNotice config operation selected descendants initialQuads point consume) := by
  refine (quiet_of_inert (readCurrent_inert selected)).bind fun _ =>
    (quiet_of_inert (observe_inert (.describeNode _ _))).bind fun _ => ?_
  refine (quiet_throw _).onlyIf.bind fun _ =>
    (quiet_of_inert (observe_inert (.getContentQuads _))).bind fun _ => ?_
  refine (quiet_of_inert (observe_inert .getLayoutMetrics)).bind fun _ => (quiet_settle _).bind fun _ => ?_
  refine (quiet_throw _).onlyIf.bind fun _ => quiet_get.bind fun world => ?_
  have hhit : Quiet operation (do
      let hit ← observe (.getNodeForLocation point)
      Coroutine.onlyIf (hit.frameId != selected.frameId || !descendants.contains hit.backendNodeId)
        (throw readinessFailed) : SessionM κ Unit) :=
    (quiet_of_inert (observe_inert (.getNodeForLocation point))).bind fun _ => (quiet_throw _).onlyIf
  refine Quiet.ite ((quiet_pure ()).bind fun _ => hhit) ?_
  refine (callbackSteps_quiet consume).bind fun _ => (setLocals_quiet _).bind fun _ => ?_
  exact consumed_quiet.bind fun _ => hhit

end Parts

/-! ## Where an operation is -/

/-- The operation was called once, with this method and this signal. -/
structure Running (operation : ℕ) (method : SessionMethodName) (signal : Option OperationSignal)
    (world : SessionWorld κ) : Prop where
  coherent : Coherent world
  called : ∀ method' signal', .called operation method' signal' ∈ world.log →
    method' = method ∧ signal' = signal

/-- And no check of it has failed. -/
structure Careful (operation : ℕ) (method : SessionMethodName) (signal : Option OperationSignal)
    (world : SessionWorld κ) : Prop extends Running operation method signal world where
  unrefused : ∀ command, .refused operation command ∉ world.log

/-- And the check of this command has succeeded; whether its validation has, is said apart. -/
structure Checked (operation : ℕ) (method : SessionMethodName) (signal : Option OperationSignal)
    (command : InterceptedCommand) (validated : Bool) (world : SessionWorld κ) : Prop
    extends Careful operation method signal world where
  checked : ∃ before since, world.log = before ++ .checked operation command :: since ∧
    (∀ other, .sent operation other ∉ since ∧ .checked operation other ∉ since) ∧
    (validated = true → .validated operation command ∈ since)

variable {method : SessionMethodName} {signal : Option OperationSignal}
  {command : InterceptedCommand} {validated : Bool}

/-- The log has grown by entries of other operations, or by quiet ones. -/
def GrownQuietly (operation : ℕ) (world world' : SessionWorld κ) : Prop :=
  (∃ entries, world'.log = world.log ++ entries ∧
    ∀ entry ∈ entries, entry.operation? = some operation → entry = .consumed operation) ∧
  (Coherent world → Coherent world')

/-- Others have logged entries of their own only. -/
theorem Rely.grownQuietly (h : Rely operation world world') :
    GrownQuietly operation world world' := by
  obtain ⟨⟨entries, hlog, hother⟩, hcoherent⟩ := h
  exact ⟨⟨entries, hlog, fun entry hmem heq => absurd heq (hother entry hmem)⟩, hcoherent⟩

/-- And so has a quiet step, but for the budget. -/
theorem QuietStep.grownQuietly (h : QuietStep operation world world') :
    GrownQuietly operation world world' := by
  refine ⟨?_, h.guarantee.coherent⟩
  cases h with
  | unlogged hlog _ => exact ⟨[], by rw [hlog, List.append_nil], fun _ h => nomatch h⟩
  | consumed hlog _ => exact ⟨_, hlog, fun _ hmem _ => List.mem_singleton.mp hmem⟩

/-- The operation runs on with its method and its signal. -/
theorem GrownQuietly.running (hgrown : GrownQuietly operation world world')
    (h : Running operation method signal world) : Running operation method signal world' := by
  obtain ⟨⟨entries, hlog, hquiet⟩, hcoherent⟩ := hgrown
  refine ⟨hcoherent h.coherent, fun method' signal' hmem => ?_⟩
  -- the log is split, and neither the call nor the signal is in the new part
  rw [hlog] at hmem
  rcases List.mem_append.mp hmem with hmem | hmem
  · exact h.called method' signal' hmem
  · exact nomatch hquiet _ hmem rfl

/-- Its checks have not failed meanwhile. -/
theorem GrownQuietly.careful (hgrown : GrownQuietly operation world world')
    (h : Careful operation method signal world) : Careful operation method signal world' := by
  refine ⟨hgrown.running h.toRunning, fun command hmem => ?_⟩
  obtain ⟨⟨entries, hlog, hquiet⟩, -⟩ := hgrown
  rw [hlog] at hmem
  rcases List.mem_append.mp hmem with hmem | hmem
  · exact h.unrefused command hmem
  · exact nomatch hquiet _ hmem rfl

/-- The check that it made is still the last thing that it did. -/
theorem GrownQuietly.checked (hgrown : GrownQuietly operation world world')
    (h : Checked operation method signal command validated world) :
    Checked operation method signal command validated world' := by
  refine ⟨hgrown.careful h.toCareful, ?_⟩
  obtain ⟨⟨entries, hlog, hquiet⟩, -⟩ := hgrown
  obtain ⟨before, since, hsplit, hnone, hvalidated⟩ := h.checked
  refine ⟨before, since ++ entries, by rw [hlog, hsplit]; simp, fun other => ⟨fun hmem => ?_,
    fun hmem => ?_⟩, fun h => List.mem_append_left entries (hvalidated h)⟩
  · rcases List.mem_append.mp hmem with hmem | hmem
    · exact (hnone other).1 hmem
    · exact nomatch hquiet _ hmem rfl
  · rcases List.mem_append.mp hmem with hmem | hmem
    · exact (hnone other).2 hmem
    · exact nomatch hquiet _ hmem rfl

/-- An assertion about the log that quiet growth keeps is stable. -/
theorem stable_of_grownQuietly {P : SessionWorld κ → Prop}
    (h : ∀ world world', GrownQuietly operation world world' → P world → P world') :
    Stable operation P :=
  ⟨fun world world' hP hrely => h world world' hrely.grownQuietly hP,
    fun world world' hP hquiet => h world world' hquiet.grownQuietly hP⟩

/-- That the operation runs is stable. -/
theorem running_stable : Stable operation (Running operation method signal (κ := κ)) :=
  stable_of_grownQuietly fun _ _ hgrown h => hgrown.running h

/-- That none of its checks has failed is stable. -/
theorem careful_stable : Stable operation (Careful operation method signal (κ := κ)) :=
  stable_of_grownQuietly fun _ _ hgrown h => hgrown.careful h

/-- And that it has checked a command. -/
theorem checked_stable :
    Stable operation (Checked operation method signal command validated (κ := κ)) :=
  stable_of_grownQuietly fun _ _ hgrown h => hgrown.checked h

/-- An entry of the operation that leaves it careful. -/
theorem Careful.record (h : Careful operation method signal world) {entry : SessionLogEntry}
    (hown : entry.operation? = some operation)
    (hcalled : ∀ method' signal', entry ≠ .called operation method' signal')
    (hrefused : ∀ command, entry ≠ .refused operation command) :
    Careful operation method signal { world with log := world.log ++ [entry] } where
  coherent signal hmem := by
    rcases List.mem_append.mp hmem with hmem | hmem
    · exact h.coherent signal hmem
    · rw [← List.mem_singleton.mp hmem] at hown
      exact nomatch hown
  called method' signal' hmem := by
    rcases List.mem_append.mp hmem with hmem | hmem
    · exact h.called method' signal' hmem
    · exact absurd (List.mem_singleton.mp hmem).symm (hcalled method' signal')
  unrefused command hmem := by
    rcases List.mem_append.mp hmem with hmem | hmem
    · exact h.unrefused command hmem
    · exact absurd (List.mem_singleton.mp hmem).symm (hrefused command)

/-- An operation with a failed check runs on. -/
theorem Careful.refused (h : Careful operation method signal world) (command : InterceptedCommand) :
    Running operation method signal
      { world with log := world.log ++ [.refused operation command] } where
  coherent signal hmem := by
    rcases List.mem_append.mp hmem with hmem | hmem
    · exact h.coherent signal hmem
    · exact nomatch List.mem_singleton.mp hmem
  called method' signal' hmem := by
    rcases List.mem_append.mp hmem with hmem | hmem
    · exact h.called method' signal' hmem
    · exact nomatch List.mem_singleton.mp hmem

/-- A check that succeeds is the last entry of the operation. -/
theorem Careful.check (h : Careful operation method signal world) (command : InterceptedCommand) :
    Checked operation method signal command false
      { world with log := world.log ++ [.checked operation command] } :=
  ⟨h.record rfl (fun _ _ h => nomatch h) (fun _ h => nomatch h), world.log, [], rfl,
    fun _ => ⟨(fun hmem => nomatch hmem), (fun hmem => nomatch hmem)⟩, fun h => nomatch h⟩

/-- A validation that succeeds follows its check. -/
theorem Checked.validate (h : Checked operation method signal command validated world) :
    Checked operation method signal command true
      { world with log := world.log ++ [.validated operation command] } := by
  obtain ⟨before, since, hsplit, hnone, -⟩ := h.checked
  refine ⟨h.toCareful.record rfl (fun _ _ h => nomatch h) (fun _ h => nomatch h), before,
    since ++ [.validated operation command], ?_, fun other => ⟨fun hmem => ?_, fun hmem => ?_⟩,
    fun _ => List.mem_append_right since (List.mem_singleton_self _)⟩
  · show world.log ++ [.validated operation command] = _
    rw [hsplit]
    simp
  · rcases List.mem_append.mp hmem with hmem | hmem
    · exact (hnone other).1 hmem
    · exact nomatch List.mem_singleton.mp hmem
  · rcases List.mem_append.mp hmem with hmem | hmem
    · exact (hnone other).2 hmem
    · exact nomatch List.mem_singleton.mp hmem

/-! ## Commands -/

/-- A part of the operation that keeps to the law. After a throw, a check may have failed. -/
def Guards (operation : ℕ) (method : SessionMethodName) (signal : Option OperationSignal)
    (x : SessionM κ α) : Prop :=
  ∀ world, Careful operation method signal world →
    wp (Rely operation) (Guarantee operation) (fun _ => Careful operation method signal)
      (fun _ => Running operation method signal) x world

/-- A part that throws, also after a failed check. -/
def Fails (operation : ℕ) (method : SessionMethodName) (signal : Option OperationSignal)
    (x : SessionM κ α) : Prop :=
  ∀ world, Running operation method signal world →
    wp (Rely operation) (Guarantee operation) (fun _ _ => False)
      (fun _ => Running operation method signal) x world

/-- A command is sent where the law allows it. -/
theorem wp_send (h : Careful operation method signal world)
    (hlaw : Guarded world.log (.sent operation command)) :
    wp (Rely operation) (Guarantee operation) (fun _ => Careful operation method signal)
      (fun _ => Running operation method signal) (send operation command) world := by
  have hsent : Careful operation method signal
      { world with log := world.log ++ [.sent operation command] } :=
    h.record rfl (fun _ _ h => nomatch h) (fun _ h => nomatch h)
  refine wp_record (guarantee_record rfl hlaw) ?_
  rw [wp_bind, wp_ask]
  intro outcome world' hrely
  have hcareful := hrely.grownQuietly.careful hsent
  cases outcome with
  | ok answer => exact hcareful
  | error error => exact hcareful.toRunning

/-- A command that was checked, and validated where it has to be, may be sent. -/
theorem Checked.guarded (h : Checked operation method signal command validated world)
    (hvalidated : isValidated command = true → validated = true)
    (haborted : NotAborted signal world) : Guarded world.log (.sent operation command) := by
  refine ⟨fun operation' command' method' signal' heq hcalled _ => ?_, (fun _ h => nomatch h)⟩
  cases heq
  obtain ⟨rfl, rfl⟩ := h.called method' signal' hcalled
  obtain ⟨before, since, hsplit, hnone, hsince⟩ := h.checked
  exact ⟨⟨before, since, hsplit, hnone, fun h => hsince (hvalidated h)⟩, haborted.log h.coherent,
    h.unrefused⟩

/-- A command that mutates nothing needs no check. -/
theorem Careful.guarded (h : Careful operation method signal world)
    (hmutates : mutates method command = false) : Guarded world.log (.sent operation command) := by
  refine ⟨fun operation' command' method' signal' heq hcalled hmutates' => ?_,
    (fun _ h => nomatch h)⟩
  cases heq
  obtain ⟨rfl, rfl⟩ := h.called method' signal' hcalled
  rw [hmutates] at hmutates'
  exact nomatch hmutates'

/-- The check of a command. -/
theorem beforeMutation_checks (h : Careful operation method signal world)
    (command : InterceptedCommand) :
    wp (Rely operation) (Guarantee operation)
      (fun _ => Checked operation method signal command false)
      (fun _ => Running operation method signal) (beforeMutation operation command) world := by
  refine wp_beforeMutation operation command fun outcome world' hrely => ?_
  have hcareful := hrely.grownQuietly.careful h
  cases outcome with
  | ok _ =>
    exact ⟨guarantee_record rfl (guarded_of_ne (fun _ _ h => nomatch h) fun _ h => nomatch h),
      hcareful.check command⟩
  | error error =>
    exact ⟨guarantee_record rfl (guarded_of_ne (fun _ _ h => nomatch h) fun _ h => nomatch h),
      hcareful.refused command⟩

/-- A scope of the operation: it has its signal, and its guards are quiet and are there for the
commands that it guards. -/
structure ScopeOf (operation : ℕ) (signal : Option OperationSignal) (scope : MutationScope κ) :
    Prop where
  signal : scope.signal = signal
  focus : ∀ guard ∈ scope.focusSemanticGuard, Quiet operation guard
  focused : scope.domFocus = true → scope.focusSemanticGuard.isSome = true
  notice : ∀ guard ∈ scope.noticeMouseGuard, Quiet operation guard.validate

/-- The operation may send the command now. -/
def Ready (operation : ℕ) (method : SessionMethodName) (signal : Option OperationSignal)
    (command : InterceptedCommand) (world : SessionWorld κ) : Prop :=
  NotAborted signal world ∧ ∃ validated, (isValidated command = true → validated = true) ∧
    Checked operation method signal command validated world

/-- A quiet validation of a checked command, with the entry at its end, leaves the operation ready
unless its signal is aborted. -/
theorem awaitValidation_ready {scope : MutationScope κ} (hsignal : scope.signal = signal)
    {validate : SessionM κ Unit} (hvalidate : Quiet operation validate)
    (h : Checked operation method signal command false world) :
    wp (Rely operation) (Guarantee operation)
      (fun _ => Ready operation method signal command) (fun _ => Running operation method signal)
      (awaitValidation operation scope command validate) world := by
  rw [awaitValidation, wp_bind]
  refine wp_performValidation operation
    (wp_mono (hvalidate _ checked_stable world h) (fun _ _ h => h) fun _ _ h => h.toRunning)
    fun world h => ⟨?_, ?_⟩
  · exact guarantee_record rfl (guarded_of_ne (fun _ _ h => nomatch h) fun _ h => nomatch h)
  rw [hsignal]
  refine wp_mono wp_throwIfAborted ?_ fun _ _ heq => ?_
  · rintro _ _ ⟨rfl, haborted⟩
    exact ⟨haborted, true, fun _ => rfl, h.validate⟩
  · rw [heq]
    exact h.validate.toRunning

/-- A callback leaves the operation ready. -/
theorem callback_ready (step : CallbackStep κ) (h : Ready operation method signal command world) :
    wp (Rely operation) (Guarantee operation)
      (fun _ => Ready operation method signal command) (fun _ => Running operation method signal)
      (callback step) world := by
  have hquiet : QuietStep operation world { world with outer := (step world.outer).2 } :=
    .unlogged rfl rfl
  obtain ⟨haborted, validated, hvalidated, hchecked⟩ := h
  have hchecked' := hquiet.grownQuietly.checked hchecked
  rw [callback, wp_bind, wp_get]
  refine ⟨refl world, ?_⟩
  rw [wp_bind]
  refine ⟨hquiet.guarantee, ?_⟩
  cases (step world.outer).1 with
  | ok _ => exact ⟨haborted, validated, hvalidated, hchecked'⟩
  | error error => exact hchecked'.toRunning

/-- Only a focus and a mouse command have a semantic guard. -/
theorem semanticGuard_ready {scope : MutationScope κ} (hscope : ScopeOf operation signal scope)
    (hguard : shouldGuard scope command = true)
    (h : Checked operation method signal command false world)
    (haborted : NotAborted signal world) :
    wp (Rely operation) (Guarantee operation)
      (fun _ => Ready operation method signal command)
      (fun _ => Running operation method signal) (semanticGuard operation scope command) world := by
  have hplain : isValidated command = false → Ready operation method signal command world :=
    fun hvalidated => ⟨haborted, false, fun h => absurd (hvalidated.symm.trans h) (by decide), h⟩
  unfold semanticGuard
  cases command with
  | focus backendNodeId =>
    cases hfocus : scope.focusSemanticGuard with
    | none =>
      have hsome := hscope.focused hguard
      rw [hfocus] at hsome
      exact nomatch hsome
    | some guard => exact awaitValidation_ready hscope.signal (hscope.focus guard hfocus) h
  | dispatchMouseEvent mouseCommand =>
    cases hnotice : scope.noticeMouseGuard with
    | none => exact h.toRunning
    | some guard =>
      show wp _ _ _ _ (awaitValidation operation scope (.dispatchMouseEvent mouseCommand)
        guard.validate >>= fun _ => callback guard.onPossibleInput) world
      rw [wp_bind]
      refine wp_mono (awaitValidation_ready hscope.signal (hscope.notice guard hnotice) h)
        (fun _ world h => ?_) fun _ _ h => h
      exact callback_ready guard.onPossibleInput h
  | _ => exact hplain rfl

/-- A command that is guarded where it is a mutation of the method. -/
theorem intercepted_guards {scope : MutationScope κ} (hscope : ScopeOf operation signal scope)
    (command : InterceptedCommand)
    (hguard : mutates method command = true → shouldGuard scope command = true) :
    Guards operation method signal
      ((mutationAwareClient operation (some scope)).intercepted command) := by
  intro world h
  show wp _ _ _ _ (if shouldGuard scope command then guardedSend operation scope command
    else send operation command) world
  split
  · rename_i hguarded
    rw [guardedSend, wp_bind, hscope.signal]
    refine wp_mono (throwIfAborted_inert.wp careful_stable.rely h) (fun _ world h => ?_)
      fun _ _ h => h.toRunning
    rw [wp_bind]
    refine wp_mono (beforeMutation_checks h command) (fun _ world h => ?_) fun _ _ h => h
    rw [wp_bind]
    refine wp_mono wp_throwIfAborted ?_ fun _ _ heq => heq ▸ h.toRunning
    rintro _ _ ⟨rfl, haborted⟩
    rw [wp_bind]
    refine wp_mono (semanticGuard_ready hscope hguarded h haborted) (fun _ world h => ?_)
      fun _ _ h => h
    obtain ⟨haborted, validated, hvalidated, hchecked⟩ := h
    exact wp_send hchecked.toCareful (hchecked.guarded hvalidated haborted)
  · rename_i hunguarded
    have hmutates : mutates method command = false := by
      rw [Bool.eq_false_iff]
      exact fun hmutates => hunguarded (hguard hmutates)
    exact wp_send h (h.guarded hmutates)

section GuardRules

variable {x : SessionM κ α}

/-- A quiet part keeps to the law. -/
theorem Quiet.guards (hx : Quiet operation x) : Guards operation method signal x :=
  fun world h => wp_mono (hx _ careful_stable world h) (fun _ _ h => h) fun _ _ h => h.toRunning

/-- So does one that does not touch the world at all. -/
theorem guards_of_inert (hx : Inert x) : Guards operation method signal x :=
  (quiet_of_inert hx).guards

/-- One part after the other keeps to it. -/
theorem Guards.bind {f : α → SessionM κ β} (hx : Guards operation method signal x)
    (hf : ∀ a, Guards operation method signal (f a)) : Guards operation method signal (x >>= f) := by
  intro world h
  rw [wp_bind]
  exact wp_mono (hx world h) (fun a world h => hf a world h) fun _ _ h => h

/-- Either branch keeps to it. -/
theorem Guards.ite {c : Prop} [Decidable c] {y : SessionM κ α}
    (hx : Guards operation method signal x) (hy : Guards operation method signal y) :
    Guards operation method signal (if c then x else y) := by
  split
  · exact hx
  · exact hy

/-- The error that takes another's place has the same past. -/
theorem Guards.replacing (hx : Guards operation method signal x) (message : String) :
    Guards operation method signal (replacing message x) := by
  intro world h
  rw [ChromeRemoteInterfaceSession.replacing, wp_handle]
  exact hx world h

/-- An error fails, whatever was checked before. -/
theorem fails_throw (error : ThrownError) :
    Fails operation method signal (throw error : SessionM κ α) := fun _ h => h

/-- What throws after a quiet part throws. -/
theorem Quiet.fails {f : α → SessionM κ β} (hx : Quiet operation x)
    (hf : ∀ a, Fails operation method signal (f a)) : Fails operation method signal (x >>= f) := by
  intro world h
  rw [wp_bind]
  exact wp_mono (hx _ running_stable world h) (fun a world h => hf a world h) fun _ _ h => h

/-- What goes on after a part has settled: where it has thrown, a check may have failed. -/
theorem Guards.attempt_bind {f : Except ThrownError α → SessionM κ β}
    (hx : Guards operation method signal x)
    (hok : ∀ a, Guards operation method signal (f (.ok a)))
    (herror : ∀ error, Fails operation method signal (f (.error error))) :
    Guards operation method signal (attempt x >>= f) := by
  intro world h
  rw [wp_bind, wp_attempt]
  refine wp_mono (hx world h) (fun a world h => hok a world h) fun error world h => ?_
  exact wp_mono (herror error world h) (fun _ _ h => False.elim h) fun _ _ h => h

end GuardRules

/-! ## The methods -/

section Methods

variable {config : ChromeSessionConfig} {session : SessionId} {client : SessionClient κ}

/-- `navigate` sends one command, through the client. -/
theorem navigate_guards
    (hclient : ∀ url, Guards operation method signal (client.intercepted (.navigate url)))
    (url : String) : Guards operation method signal (navigate session client url) := by
  refine (guards_of_inert requireOpen_inert).bind fun _ => ((hclient url).replacing _).bind fun result => ?_
  exact (quiet_throw _).onlyIf.guards

/-- Waiting for a navigation to settle only reads the page. -/
theorem navigateAndSettle_guards
    (hclient : ∀ url, Guards operation method signal (client.intercepted (.navigate url)))
    (fuel : ℕ) (url : String) (expectedRoute : RouteExpectation) :
    Guards operation method signal
      (navigateAndSettle config operation client fuel url expectedRoute signal) := by
  refine (guards_of_inert (replacing_inert _ (observe_inert .enable))).bind fun _ => ?_
  refine (guards_of_inert throwIfAborted_inert).bind fun _ => ?_
  refine (setLocals_quiet _).guards.bind fun _ => ?_
  refine ((hclient url).replacing _).bind fun result => (quiet_throw _).onlyIf.guards.bind fun _ => ?_
  have hloops : Quiet operation (do
      awaitSettlement operation signal fuel
      awaitRoute config expectedRoute signal fuel : SessionM κ Unit) :=
    (quiet_of_inert (awaitSettlement_inert fuel)).bind fun _ =>
      quiet_of_inert (awaitRoute_inert expectedRoute fuel)
  cases result.frameId with
  | some frameId => exact ((setLocals_quiet _).bind fun _ => hloops).guards
  | none => exact ((quiet_pure ()).bind fun _ => hloops).guards

/-- It navigates once, and waits. -/
theorem navigateAndWaitForLoadSettlement_guards
    (hclient : ∀ url, Guards operation method signal (client.intercepted (.navigate url)))
    (fuel : ℕ) (url : String) (expectedRoute : RouteExpectation) :
    Guards operation method signal
      (navigateAndWaitForLoadSettlement config session operation client fuel url expectedRoute
        signal) := by
  refine (guards_of_inert requireOpen_inert).bind fun _ =>
    (guards_of_inert throwIfAborted_inert).bind fun _ => ?_
  refine (quiet_throw _).onlyIf.guards.bind fun _ => (setLocals_quiet _).guards.bind fun _ => ?_
  refine (navigateAndSettle_guards hclient fuel url expectedRoute).attempt_bind (fun _ => ?_)
    fun error => ?_
  · exact ((setLocals_quiet _).bind fun _ => quiet_settle _).guards
  · exact (setLocals_quiet _).fails fun _ => fails_throw error

/-- The focus is dispatched behind a validation that is quiet. -/
theorem focusBackendNode_guards {dispatchComposerFocus : SessionM κ Unit → SessionM κ Unit}
    (hdispatch : ∀ validate, Quiet operation validate →
      Guards operation method signal (dispatchComposerFocus validate))
    (backendDOMNodeId : Rat) :
    Guards operation method signal
      (focusBackendNode config session dispatchComposerFocus backendDOMNodeId) := by
  refine (guards_of_inert requireOpen_inert).bind fun _ => quiet_get.guards.bind fun world => ?_
  exact hdispatch _ (quiet_of_inert (validateFocus_inert _ backendDOMNodeId))

/-- So is each press of the mouse on a notice. -/
theorem dismissKnownFreshNotice_guards
    {dispatchNoticeMouse : NoticeMouseCommand → NoticeMouseGuard κ → SessionM κ Unit}
    (hdispatch : ∀ command guard, Quiet operation guard.validate →
      Guards operation method signal (dispatchNoticeMouse command guard))
    (fuel : ℕ) (snapshot : ExistingReadinessSnapshot) (consume : List (CallbackStep κ))
    (onPossibleInput : CallbackStep κ) :
    Guards operation method signal
      (dismissKnownFreshNotice config session operation dispatchNoticeMouse fuel snapshot consume
        onPossibleInput signal) := by
  refine quiet_get.guards.bind fun world => ?_
  split
  · refine (quiet_throw _).onlyIf.guards.bind fun _ =>
      (guards_of_inert (readCurrent_inert _)).bind fun _ => ?_
    refine (guards_of_inert (observe_inert (.describeNode _ _))).bind fun button => ?_
    refine (quiet_throw _).onlyIf.guards.bind fun _ => ?_
    refine (guards_of_inert (observe_inert (.getContentQuads _))).bind fun initialQuads => ?_
    refine (guards_of_inert (observe_inert .getLayoutMetrics)).bind fun initialViewport => ?_
    refine (quiet_settle _).guards.bind fun point => ?_
    refine (hdispatch _ _ (validateNotice_quiet _ _ _ _ _)).bind fun _ => ?_
    refine (hdispatch _ _ (validateNotice_quiet _ _ _ _ _)).bind fun _ => ?_
    exact (guards_of_inert (awaitDismissed_inert _ fuel))
  · exact (quiet_throw _).guards

/-- A text is inserted by one command. -/
theorem insertText_guards
    (hclient : ∀ text, Guards operation method signal (client.intercepted (.insertText text)))
    (text : Text) : Guards operation method signal (insertText session client text) :=
  (guards_of_inert requireOpen_inert).bind fun _ => (hclient text).replacing _

/-- The key is sent by one command. -/
theorem dispatchEnter_guards
    (hclient : ∀ type, Guards operation method signal (client.intercepted (.dispatchKeyEvent type)))
    (type : EnterEventType) : Guards operation method signal (dispatchEnter session client type) :=
  (guards_of_inert requireOpen_inert).bind fun _ => (hclient type).replacing _

/-- The text of the composer is read, not written. -/
theorem projectComposerAxTextMatches_quiet (backendDOMNodeId : Rat) (text : Text) :
    Quiet operation (projectComposerAxTextMatches backendDOMNodeId text signal : SessionM κ Bool) := by
  refine (quiet_of_inert throwIfAborted_inert).bind fun _ =>
    (quiet_of_inert (observe_inert .getFrameTree)).bind fun frame => ?_
  refine (quiet_of_inert throwIfAborted_inert).bind fun _ =>
    (quiet_of_inert (observe_inert (.getFullAXTree _))).bind fun tree => ?_
  refine (quiet_of_inert throwIfAborted_inert).bind fun _ => ?_
  split <;> exact quiet_pure _

/-- The domains are enabled for reading. -/
theorem projectComposerDomains_quiet (backendDOMNodeId : Rat) :
    Quiet operation
      (projectComposerDomains config session backendDOMNodeId signal : SessionM κ Unit) := by
  refine (quiet_of_inert throwIfAborted_inert).bind fun _ => quiet_get.bind fun world => ?_
  refine (quiet_throw _).onlyIf.bind fun _ => (quiet_throw _).onlyIf.bind fun _ => ?_
  exact (quiet_throw _).onlyIf

/-- An element is resolved to an object, which the operation keeps in its locals. -/
theorem resolveObject_quiet (message : String) (backendNodeId : Rat) :
    Quiet operation (resolveObject operation message backendNodeId : SessionM κ String) := by
  refine (quiet_of_inert (observe_inert (.resolveNode _))).bind fun objectId => ?_
  cases (objectId : Option String) with
  | none => exact quiet_throw _
  | some objectId =>
    refine (quiet_throw _).onlyIf.bind fun _ => (setLocals_quiet _).bind fun _ => ?_
    exact quiet_pure objectId

/-- A session is closed without a command to the page. -/
theorem close_quiet : Quiet operation (close session : SessionM κ Unit) := by
  intro P hP world h
  rw [close, wp_bind, wp_get]
  refine ⟨refl world, ?_⟩
  split
  · exact h
  · rw [wp_bind]
    have hquiet : QuietStep operation world { world with
        fields := Function.update world.fields session
          { world.fields session with closed := true, readinessInitialized := false } } :=
      .unlogged rfl rfl
    exact ⟨hquiet.guarantee, (observe_inert .close).wp hP.rely (hP.quiet _ _ h hquiet)⟩

/-- Objects are released one by one, and a failure stops none. -/
theorem releaseObjects_quiet (objectIds : List String) :
    Quiet operation (releaseObjects objectIds : SessionM κ Bool) := by
  induction objectIds with
  | nil => exact quiet_pure false
  | cons objectId objectIds ih =>
    refine (quiet_of_inert (observe_inert (.releaseObject objectId))).attempt.bind fun released => ?_
    refine ih.bind fun failed => ?_
    cases released <;> exact quiet_pure _

/-- Where one could not be released, the session is closed. -/
theorem releaseProjectComposerObjects_quiet :
    Quiet operation (releaseProjectComposerObjects session operation : SessionM κ Unit) := by
  refine quiet_get.bind fun world => (releaseObjects_quiet _).bind fun cleanupFailed => ?_
  exact (close_quiet.attempt.bind fun _ => quiet_throw _).ite (quiet_pure ())

/-- Whatever the part comes to, its objects are released behind it. -/
theorem withComposerObjects_guards {x : SessionM κ α} (hx : Guards operation method signal x)
    (failure : String) :
    Guards operation method signal (withComposerObjects session operation failure x) := by
  refine hx.attempt_bind (fun a => ?_) fun error => ?_
  · exact (releaseProjectComposerObjects_quiet.bind fun _ => quiet_pure a).guards
  · exact releaseProjectComposerObjects_quiet.fails fun _ => fails_throw _

section Composer

variable
  (hcall : ∀ objectId function,
    Guards operation method signal (client.intercepted (.callFunctionOn objectId function)))
include hcall

/-- The text goes into the composer of the project, behind two looks at its form. -/
theorem insertIntoComposer_guards
    (hinsert : ∀ text, Guards operation method signal (client.intercepted (.insertText text)))
    (projectLocator : ProjectLocator) (backendDOMNodeId : Rat) (text : Text) :
    Guards operation method signal
      (insertIntoComposer operation client projectLocator backendDOMNodeId text signal) := by
  refine (resolveObject_quiet _ _).guards.bind fun composer => ?_
  refine (guards_of_inert throwIfAborted_inert).bind fun _ => (hcall composer _).bind fun result => ?_
  cases result.objectId with
  | none => exact ((quiet_of_inert throwIfAborted_inert).bind fun _ => quiet_pure none).guards
  | some form =>
    refine (setLocals_quiet _).guards.bind fun _ => (guards_of_inert throwIfAborted_inert).bind fun _ => ?_
    refine (quiet_pure none).guards.ite ((guards_of_inert (observe_inert (.describeObject form))).bind
      fun described => (guards_of_inert throwIfAborted_inert).bind fun _ => ?_)
    split
    · exact (quiet_pure none).guards
    rename_i candidate _
    -- the text is inserted only between two looks at the form
    refine (hcall composer _).bind fun revalidated => (guards_of_inert throwIfAborted_inert).bind fun _ => ?_
    refine (quiet_pure none).guards.ite (((hinsert text).replacing _).bind fun _ => ?_)
    refine (guards_of_inert throwIfAborted_inert).bind fun _ => (hcall composer _).bind fun verified => ?_
    refine (guards_of_inert throwIfAborted_inert).bind fun _ => (quiet_pure none).guards.ite ?_
    refine (quiet_pure (some candidate)).guards.ite (Guards.ite ?_ (quiet_pure none).guards)
    exact ((projectComposerAxTextMatches_quiet _ text).bind fun _ => quiet_pure _).guards

/-- The click is a function on the composer, behind its check. -/
theorem clickSend_guards (malformed composer : String) (click : ComposerFunction) :
    Guards operation method signal (clickSend client malformed composer click signal) := by
  refine (guards_of_inert throwIfAborted_inert).bind fun _ => (hcall composer click).bind fun clicked => ?_
  refine (guards_of_inert throwIfAborted_inert).bind fun _ => ?_
  split
  · exact (quiet_pure _).guards
  · exact (quiet_throw _).guards

/-- The composer is validated before the click. -/
theorem validateAndClick_guards (malformed composer : String) (validation : ComposerFunction)
    (click : String → Option String → ComposerFunction) (backendDOMNodeId : Rat) (text : Text) :
    Guards operation method signal
      (validateAndClick client malformed composer validation click backendDOMNodeId text signal) := by
  refine (guards_of_inert throwIfAborted_inert).bind fun _ => (hcall composer _).bind fun result => ?_
  refine (guards_of_inert throwIfAborted_inert).bind fun _ => (quiet_throw _).onlyIf.guards.bind fun _ => ?_
  cases result.value with
  | absent | null => exact (quiet_pure false).guards
  | boolean _ | text _ | other => exact (quiet_throw _).guards
  | validation kind html =>
    refine (quiet_throw _).onlyIf.guards.bind fun _ => ?_
    have hclick : ∀ textVerified : Bool, Guards operation method signal
        (if textVerified then clickSend client malformed composer
          (click kind (if kind = "AX_REQUIRED" then html else none)) signal
        else pure false) := fun textVerified =>
      (clickSend_guards hcall malformed composer _).ite (quiet_pure false).guards
    exact Guards.ite ((projectComposerAxTextMatches_quiet _ text).guards.bind hclick)
      ((quiet_pure true).guards.bind hclick)

/-- The button of a project's turn. -/
theorem clickTurnSendButton_guards (projectLocator : ProjectLocator)
    (backendDOMNodeId formBackendDOMNodeId : Rat) (expectedText : Text) :
    Guards operation method signal
      (clickTurnSendButton config session operation client projectLocator backendDOMNodeId
        formBackendDOMNodeId expectedText signal) := by
  refine (projectComposerDomains_quiet _).guards.bind fun _ => ?_
  refine (quiet_throw _).onlyIf.guards.bind fun _ => Guards.bind (withComposerObjects_guards ?_ _)
    fun clicked => (quiet_throw _).onlyIf.guards
  refine (resolveObject_quiet _ _).guards.bind fun composer => ?_
  refine (guards_of_inert throwIfAborted_inert).bind fun _ =>
    (resolveObject_quiet _ _).guards.bind fun form => ?_
  exact validateAndClick_guards hcall _ composer _ _ backendDOMNodeId expectedText

/-- The button of a turn in an existing conversation. -/
theorem clickExistingTurnSendButton_guards (conversationLocator : ConversationLocator)
    (backendDOMNodeId : Rat) (expectedText : Text) :
    Guards operation method signal
      (clickExistingTurnSendButton config session operation client conversationLocator
        backendDOMNodeId expectedText signal) := by
  refine (projectComposerDomains_quiet _).guards.bind fun _ => ?_
  refine Guards.bind (withComposerObjects_guards ?_ _) fun clicked =>
    (quiet_throw _).onlyIf.guards
  refine (resolveObject_quiet _ _).guards.bind fun composer => ?_
  refine (guards_of_inert throwIfAborted_inert).bind fun _ => (hcall composer _).bind fun result => ?_
  split
  · refine (setLocals_quiet _).guards.bind fun _ => ?_
    exact validateAndClick_guards hcall _ composer _ _ backendDOMNodeId expectedText
  · exact (quiet_throw _).guards

/-- The prompt of a project's turn. -/
theorem insertTextIntoProjectComposer_guards
    (hinsert : ∀ text, Guards operation method signal (client.intercepted (.insertText text)))
    (text : Text) (projectLocator : ProjectLocator) (backendDOMNodeId : Rat) :
    Guards operation method signal
      (insertTextIntoProjectComposer config session operation client text projectLocator
        backendDOMNodeId signal) := by
  refine (projectComposerDomains_quiet _).guards.bind fun _ => Guards.bind
    (withComposerObjects_guards
      (insertIntoComposer_guards hcall hinsert projectLocator backendDOMNodeId text) _)
    fun form => ?_
  cases form with
  | none => exact (quiet_throw _).guards
  | some formBackendDOMNodeId => exact (quiet_pure formBackendDOMNodeId).guards

end Composer

section Projects

variable
  (hevaluate : ∀ expression,
    Guards operation method signal (client.intercepted (.evaluate expression)))
include hevaluate

/-- A script that only looks. -/
theorem evaluateProjectBoolean_guards (expression : ProjectScript) :
    Guards operation method signal (evaluateProjectBoolean client expression) := by
  refine ((hevaluate expression).replacing _).bind fun result => ?_
  split
  · exact (quiet_pure _).guards
  · exact (quiet_throw _).guards

/-- It is asked again until it says so, or the attempts are used up. -/
theorem evaluateUntil_guards (expression : ProjectScript) (attempts : ℕ) :
    Guards operation method signal (evaluateUntil client expression signal attempts) := by
  induction attempts with
  | zero => exact (quiet_pure false).guards
  | succ attempts ih =>
    refine (guards_of_inert throwIfAborted_inert).bind fun _ => ?_
    refine (evaluateProjectBoolean_guards hevaluate expression).bind fun done => ?_
    exact (quiet_pure true).guards.ite ((guards_of_inert (delay_inert 100)).bind fun _ => ih)

/-- The new project is waited for by looking at the page. -/
theorem awaitProject_guards (name : Text) (initialLocator : Option ProjectLocator) (attempts : ℕ) :
    Guards operation method signal
      (awaitProject config client name initialLocator signal attempts) := by
  induction attempts with
  | zero => exact (quiet_throw _).guards
  | succ attempts ih =>
    have hagain : Guards operation method signal (do
        delay 100 signal
        awaitProject config client name initialLocator signal attempts) :=
      (guards_of_inert (delay_inert 100)).bind fun _ => ih
    refine (guards_of_inert throwIfAborted_inert).bind fun _ => ?_
    refine (guards_of_inert (observe_inert .getFrameTree)).bind fun frame => ?_
    dsimp only
    split
    · exact hagain
    rename_i found _
    refine hagain.ite ((evaluateProjectBoolean_guards hevaluate _).bind fun nameVisible => ?_)
    exact (quiet_pure found).guards.ite hagain

/-- The name is typed and the form is sent, each command behind its check. -/
theorem createProjectThroughUi_guards
    (hinsert : ∀ text, Guards operation method signal (client.intercepted (.insertText text)))
    (name : Text) (onMutationAttempted : CallbackStep κ) :
    Guards operation method signal
      (createProjectThroughUi config session client name signal onMutationAttempted) := by
  refine quiet_get.guards.bind fun world => (quiet_throw _).onlyIf.guards.bind fun _ => ?_
  refine (guards_of_inert throwIfAborted_inert).bind fun _ => ?_
  refine (guards_of_inert (observe_inert .getFrameTree)).bind fun initialFrame => ?_
  refine (evaluateProjectBoolean_guards hevaluate _).bind fun opened => ?_
  refine (quiet_throw _).onlyIf.guards.bind fun _ => ?_
  refine (evaluateUntil_guards hevaluate _ 50).bind fun inputFocused => ?_
  refine (quiet_throw _).onlyIf.guards.bind fun _ => (guards_of_inert throwIfAborted_inert).bind fun _ => ?_
  refine ((hinsert name).replacing _).bind fun _ => (callback_quiet _).guards.bind fun _ => ?_
  refine (evaluateUntil_guards hevaluate _ 50).bind fun confirmed => ?_
  refine (quiet_throw _).onlyIf.guards.bind fun _ => ?_
  exact awaitProject_guards hevaluate name _ 200

end Projects

end Methods

/-- A scope without semantic guards. -/
theorem scopeOf_plain {scope : MutationScope κ} (hsignal : scope.signal = signal)
    (hfocus : scope.focusSemanticGuard = none) (hfocused : scope.domFocus = false)
    (hnotice : scope.noticeMouseGuard = none) : ScopeOf operation signal scope where
  signal := hsignal
  focus guard hguard := by
    rw [hfocus] at hguard
    exact nomatch hguard
  focused h := by
    rw [hfocused] at h
    exact nomatch h
  notice guard hguard := by
    rw [hnotice] at hguard
    exact nomatch hguard

/-- Every method keeps to the law: its scope guards the mutations of the method. -/
theorem perform_guards (config : ChromeSessionConfig) (session : SessionId) (fuel : ℕ)
    (call : SessionMethod κ) :
    Guards operation call.name signal (perform config session operation fuel signal call) := by
  cases call with
  | navigate url =>
    have hscope : ScopeOf operation signal ({ signal, pageNavigate := true } : MutationScope κ) :=
      scopeOf_plain rfl rfl rfl rfl
    exact navigate_guards (fun url => intercepted_guards hscope (.navigate url) fun _ => rfl) url
  | reload =>
    have hscope : ScopeOf operation signal ({ signal, pageReload := true } : MutationScope κ) :=
      scopeOf_plain rfl rfl rfl rfl
    exact (guards_of_inert requireOpen_inert).bind fun _ =>
      (intercepted_guards hscope .reload fun _ => rfl).replacing _
  | navigateAndWaitForLoadSettlement url expectedRoute =>
    have hscope : ScopeOf operation signal ({ signal, pageNavigate := true } : MutationScope κ) :=
      scopeOf_plain rfl rfl rfl rfl
    exact navigateAndWaitForLoadSettlement_guards
      (fun url => intercepted_guards hscope (.navigate url) fun _ => rfl) fuel url expectedRoute
  | focusBackendNode backendDOMNodeId =>
    refine focusBackendNode_guards (fun validate hvalidate => ?_) backendDOMNodeId
    have hscope : ScopeOf operation signal
        ({ signal, domFocus := true, focusSemanticGuard := some validate } : MutationScope κ) := by
      refine ⟨rfl, fun guard hguard => ?_, fun _ => rfl, (fun _ h => nomatch h)⟩
      rw [← Option.some.inj hguard]
      exact hvalidate
    exact intercepted_guards hscope (.focus backendDOMNodeId) fun _ => rfl
  | dismissKnownFreshNotice snapshot consume onPossibleInput =>
    refine dismissKnownFreshNotice_guards (fun command guard hguard => ?_) fuel snapshot consume
      onPossibleInput
    have hscope : ScopeOf operation signal ({ signal
                                              inputDispatchMouseEvent := true
                                              noticeMouseGuard := some guard } :
        MutationScope κ) := by
      refine ⟨rfl, (fun _ h => nomatch h), (fun h => nomatch h), fun guard' hguard' => ?_⟩
      rw [← Option.some.inj hguard']
      exact hguard
    exact intercepted_guards hscope (.dispatchMouseEvent command) fun _ => rfl
  | insertText text =>
    have hscope : ScopeOf operation signal
        ({ signal, inputInsertText := true } : MutationScope κ) := scopeOf_plain rfl rfl rfl rfl
    exact insertText_guards (fun text => intercepted_guards hscope (.insertText text) fun _ => rfl)
      text
  | insertTextIntoProjectComposer text projectLocator backendDOMNodeId =>
    have hscope : ScopeOf operation signal
        ({ signal, inputInsertText := true } : MutationScope κ) := scopeOf_plain rfl rfl rfl rfl
    refine (insertTextIntoProjectComposer_guards (fun objectId function => ?_) (fun text => ?_) text
      projectLocator backendDOMNodeId).bind fun _ => (quiet_pure ()).guards
    -- the functions that this method calls only read the composer
    · exact intercepted_guards hscope (.callFunctionOn objectId function) fun h => nomatch h
    · exact intercepted_guards hscope (.insertText text) fun _ => rfl
  | dispatchEnterKeyDown =>
    have hscope : ScopeOf operation signal
        ({ signal, inputDispatchKeyEvent := true } : MutationScope κ) :=
      scopeOf_plain rfl rfl rfl rfl
    exact dispatchEnter_guards
      (fun key => intercepted_guards hscope (.dispatchKeyEvent key) fun _ => rfl) .keyDown
  | dispatchEnterKeyUp =>
    have hscope : ScopeOf operation signal
        ({ signal, inputDispatchKeyEvent := true } : MutationScope κ) :=
      scopeOf_plain rfl rfl rfl rfl
    exact dispatchEnter_guards
      (fun key => intercepted_guards hscope (.dispatchKeyEvent key) fun _ => rfl) .keyUp
  | clickTurnSendButton projectLocator backendDOMNodeId formBackendDOMNodeId expectedText =>
    have hscope : ScopeOf operation signal
        ({ signal, runtimeCallFunctionOn := true } : MutationScope κ) :=
      scopeOf_plain rfl rfl rfl rfl
    exact clickTurnSendButton_guards (fun objectId function =>
      intercepted_guards hscope (.callFunctionOn objectId function) fun _ => rfl) projectLocator
      backendDOMNodeId formBackendDOMNodeId expectedText
  | clickExistingTurnSendButton conversationLocator backendDOMNodeId expectedText =>
    have hscope : ScopeOf operation signal
        ({ signal, runtimeCallFunctionOn := true } : MutationScope κ) :=
      scopeOf_plain rfl rfl rfl rfl
    exact clickExistingTurnSendButton_guards (fun objectId function =>
      intercepted_guards hscope (.callFunctionOn objectId function) fun _ => rfl)
      conversationLocator backendDOMNodeId expectedText
  | createProjectThroughUi name onMutationAttempted =>
    have hscope : ScopeOf operation signal
        ({ signal, runtimeEvaluate := true, inputInsertText := true } : MutationScope κ) :=
      scopeOf_plain rfl rfl rfl rfl
    refine (createProjectThroughUi_guards (fun expression => ?_) (fun text => ?_) name
      onMutationAttempted).bind fun _ => (quiet_pure ()).guards
    · exact intercepted_guards hscope (.evaluate expression) fun _ => rfl
    · exact intercepted_guards hscope (.insertText text) fun _ => rfl

/-! ## Runs -/

/-- A call by an operation that the log does not know yet. -/
theorem call_keeps (config : ChromeSessionConfig) (session : SessionId) (fuel : ℕ)
    (method : SessionMethod κ) (signal : Option OperationSignal) (hcoherent : Coherent world)
    (hfresh : ∀ entry ∈ world.log, entry.operation? ≠ some operation) :
    wp (Rely operation) (Guarantee operation) (fun _ _ => True) (fun _ _ => True)
      (call config session operation fuel method signal) world := by
  have hcareful : Careful operation method.name signal
      { world with log := world.log ++ [.called operation method.name signal] } := by
    refine ⟨⟨fun aborted hmem => ?_, fun method' signal' hmem => ?_⟩, fun command hmem => ?_⟩
    · rcases List.mem_append.mp hmem with hmem | hmem
      · exact hcoherent aborted hmem
      · exact nomatch List.mem_singleton.mp hmem
    · rcases List.mem_append.mp hmem with hmem | hmem
      · exact absurd rfl (hfresh _ hmem)
      · cases List.mem_singleton.mp hmem
        exact ⟨rfl, rfl⟩
    · rcases List.mem_append.mp hmem with hmem | hmem
      · exact absurd rfl (hfresh _ hmem)
      · exact nomatch List.mem_singleton.mp hmem
  refine wp_record
    (guarantee_record rfl (guarded_of_ne (fun _ _ h => nomatch h) fun _ h => nomatch h)) ?_
  rw [wp_bind, wp_attempt]
  refine wp_mono (perform_guards config session fuel method _ hcareful) (fun _ world h => ?_)
    fun error world h => ?_
  · refine ⟨guarantee_record rfl ⟨(fun _ _ _ _ h => nomatch h), fun operation' heq => ?_⟩, trivial⟩
    cases heq
    exact h.unrefused
  · exact ⟨guarantee_record rfl (guarded_of_ne (fun _ _ h => nomatch h) fun _ h => nomatch h),
      trivial⟩

/-- What holds in every state of every run. -/
structure Safe (pool : SessionPool κ) : Prop where
  sound : Pool.Sound Rely Guarantee (fun _ _ _ => True) (fun _ _ _ => True) pool
  coherent : Coherent pool.state
  known : ∀ entry ∈ pool.state.log, ∀ operation, entry.operation? = some operation →
    operation < pool.running.length
  lawful : Trace.Lawful Guarded pool.state.log

/-- At the beginning nothing was called and nothing is in the log. -/
theorem safe_initial (outer : κ) : Safe ({ state := { outer } } : SessionPool κ) where
  sound := ⟨fun _ _ _ h => nomatch h⟩
  coherent _ h := nomatch h
  known _ h := nomatch h
  lawful := Trace.lawful_nil

variable {pool : SessionPool κ}

/-- The state moves by an operation's guarantee. -/
theorem Safe.guarantee (h : Safe pool) {pool' : SessionPool κ} (hlength : operation < pool'.running.length)
    (hgrown : pool.running.length ≤ pool'.running.length)
    (hsound : Pool.Sound Rely Guarantee (fun _ _ _ => True) (fun _ _ _ => True) pool')
    (hguarantee : Guarantee operation pool.state pool'.state) : Safe pool' := by
  refine ⟨hsound, hguarantee.coherent h.coherent, fun entry hmem other hother => ?_,
    hguarantee.lawful h.lawful⟩
  obtain ⟨entries, hlog, hown⟩ := hguarantee.grown
  rw [hlog] at hmem
  rcases List.mem_append.mp hmem with hmem | hmem
  · exact Nat.lt_of_lt_of_le (h.known entry hmem other hother) hgrown
  · rw [hown entry hmem] at hother
    rwa [← Option.some.inj hother]

/-- A move that logs nothing. -/
theorem Safe.unlogged (h : Safe pool) (f : SessionWorld κ → SessionWorld κ)
    (hlog : (f pool.state).log = pool.state.log)
    (haborted : (f pool.state).aborted = pool.state.aborted) : Safe (pool.move f) := by
  have hcoherent : Coherent pool.state → Coherent (f pool.state) := fun hcoherent signal hmem => by
    rw [haborted]
    exact hcoherent signal (hlog ▸ hmem)
  refine ⟨h.sound.move fun operation => ⟨⟨[], ?_, fun _ h => nomatch h⟩, hcoherent⟩,
    hcoherent h.coherent, ?_, ?_⟩
  · rw [hlog, List.append_nil]
  · show ∀ entry ∈ (f pool.state).log, _
    rw [hlog]
    exact h.known
  · show Trace.Lawful Guarded (f pool.state).log
    rw [hlog]
    exact h.lawful

/-- An abort marks a signal that no operation has checked for itself. -/
theorem Safe.abort (h : Safe pool) (signal : OperationSignal) (reason : Option ThrownError) :
    Safe (pool.move (abort signal reason)) := by
  rcases abort_cases signal reason pool.state with ⟨hsame, -⟩ | habort
  · exact h.unlogged _ (by rw [hsame]) (by rw [hsame])
  have hcoherent := fun h : Coherent pool.state => coherent_abort h signal reason
  have hlog : (MutationGuardedChromeRemoteInterfaceSession.abort signal reason pool.state).log =
      pool.state.log ++ [.aborted signal] := by rw [habort]
  refine ⟨h.sound.move fun operation => ⟨⟨_, hlog, fun entry hmem => ?_⟩, hcoherent⟩,
    hcoherent h.coherent, ?_, ?_⟩
  · rw [List.mem_singleton.mp hmem]
    exact fun h => nomatch h
  · show ∀ entry ∈ (MutationGuardedChromeRemoteInterfaceSession.abort signal reason
      pool.state).log, _
    rw [hlog]
    intro entry hmem operation hoperation
    rcases List.mem_append.mp hmem with hmem | hmem
    · exact h.known entry hmem operation hoperation
    · rw [List.mem_singleton.mp hmem] at hoperation
      exact nomatch hoperation
  · show Trace.Lawful Guarded
      (MutationGuardedChromeRemoteInterfaceSession.abort signal reason pool.state).log
    rw [hlog]
    exact Trace.lawful_snoc.mpr
      ⟨h.lawful, guarded_of_ne (fun _ _ h => nomatch h) fun _ h => nomatch h⟩

theorem Safe.step (config : ChromeSessionConfig) (h : Safe pool) (input : GuardedSessionInput κ) :
    Safe (step config pool input) := by
  have hrely : ∀ position other (world world' : SessionWorld κ), position ≠ other →
      Guarantee other world world' → Rely position world world' :=
    fun _ _ _ _ hne hguarantee => hguarantee.rely hne
  cases input with
  -- a call starts an operation with a number that no entry of the log has
  | call session fuel method signal =>
    have hfresh : ∀ entry ∈ pool.state.log, entry.operation? ≠ some pool.running.length :=
      fun entry hmem heq => Nat.lt_irrefl _ (h.known entry hmem _ heq)
    obtain ⟨hsound, hguarantee⟩ := h.sound.start hrely
      (call_keeps config session fuel method signal h.coherent hfresh)
    have hlength : (pool.start (MutationGuardedChromeRemoteInterfaceSession.call config session
        pool.running.length fuel method signal)).running.length = pool.running.length + 1 :=
      List.length_append
    exact h.guarantee (hlength ▸ Nat.lt_succ_self _) (hlength ▸ Nat.le_succ _) hsound hguarantee
  -- an answer that comes for no operation changes nothing
  | answer operation answers =>
    obtain ⟨hsound, hguarantee⟩ := h.sound.resume hrely operation answers
    rcases Nat.lt_or_ge operation pool.running.length with hlt | hge
    · exact h.guarantee (Pool.length_resume.symm ▸ hlt) (Nat.le_of_eq Pool.length_resume.symm) hsound
        hguarantee
    · show Safe (pool.resume operation answers)
      rw [Pool.resume, List.getElem?_eq_none hge]
      exact h
  | abort signal reason => exact h.abort signal reason
  | pageEvent operation event =>
    exact h.unlogged (MutationGuardedChromeRemoteInterfaceSession.pageEvent operation event) rfl rfl
  | initialized session =>
    exact h.unlogged (setFields session fun fields => { fields with readinessInitialized := true }) rfl rfl
  | observed session document =>
    exact h.unlogged (setFields session fun fields =>
      { fields with lastReadinessDocument := some document }) rfl rfl
  | disconnected session =>
    exact h.unlogged (setFields session fun fields =>
      { fields with closed := true, readinessInitialized := false }) rfl rfl
  | outerMove f =>
    exact h.unlogged (fun world => { world with outer := f world.outer }) rfl rfl

/-- In every run of the operations, side by side, a mutating command is sent only after its own check
has succeeded and, where it is a focus or a mouse event, its validation after that; the signal is
not aborted then, and no check of the operation has failed. An operation with a check that failed
does not return. -/
theorem mutations_guarded (config : ChromeSessionConfig) (outer : κ)
    (inputs : List (GuardedSessionInput κ)) :
    Trace.Lawful Guarded (run config outer inputs).state.log := by
  have hsafe : ∀ pool : SessionPool κ, Safe pool → Safe (inputs.foldl (step config) pool) := by
    induction inputs with
    | nil => exact fun _ h => h
    | cons input inputs ih => exact fun pool h => ih _ (h.step config input)
  exact (hsafe _ (safe_initial outer)).lawful

/-- A client that inserts a text, and a check that succeeds. -/
def permits : ∀ request : SessionRequest, Option request.Answer
  | .intercepted (.insertText _) | .beforeMutation => some (.ok ())
  | _ => none

example (config : ChromeSessionConfig) :
    (run config () [.call 0 0 (.insertText []) (some 1), .answer 0 permits]).state.log =
      [.called 0 .insertText (some 1), .checked 0 (.insertText []), .sent 0 (.insertText [])] := rfl

/-- Aborted before the check is answered, the text is not inserted. -/
example (config : ChromeSessionConfig) :
    (run config () [.call 0 0 (.insertText []) (some 1), .abort 1 none,
        .answer 0 permits]).state.log =
      [.called 0 .insertText (some 1), .aborted 1, .checked 0 (.insertText []),
        .rejected 0 (ThrownError.plain
          "CDP insertText command failed without retained protocol metadata.")] := rfl

end MutationGuardedChromeRemoteInterfaceSession

end Threadwire
