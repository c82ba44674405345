import Threadwire.Cdp.KnownNoticeDismissal
import Threadwire.Machine.Trace

/-!
# One intent, one click

However many budgets of one intent there are, and however their calls, the operations of the sessions
and the ends of the managers' calls are interleaved: at most one `consume` returns, a mouse event is
sent only by the operation whose `consume` has returned, and there is at most one press and one
release. A call of a manager that rejects after it sent a mouse event has reported its lease as
uncertain.

The exclusive file carries the first part: the operation that opened it is the only one that can get
past `consume`, now or after a restart. The second part is about what a rejection leaves behind: the
operation has ended then, or its signal is aborted, and either way it sends nothing more.
-/

namespace Threadwire

/-- Who has created the file of the consumption: nobody yet, another program, or a call. -/
def NoticeWorld.opener (world : NoticeWorld) : Option (Option ℕ) :=
  world.ledger.consumedFile.map ConsumedFile.openedBy

namespace NoticeSystem

open Coroutine ChromeRemoteInterfaceSession

/-- When an entry may be logged. -/
structure OnceOnly (past : List SessionLogEntry) (entry : SessionLogEntry) : Prop where
  called : ∀ place method signal, entry = .called place method signal →
    ∀ method' signal', .called place method' signal' ∉ past
  consumed : ∀ place, entry = .consumed place → ∀ other, .consumed other ∉ past
  sent : ∀ place command, entry = .sent place (.dispatchMouseEvent command) →
    .consumed place ∈ past ∧
      (∃ method signal, .called place method (some signal) ∈ past ∧ .aborted signal ∉ past) ∧
      ∀ other command', .sent other (.dispatchMouseEvent command') ∈ past →
        command'.type ≠ command.type

/-- An entry that is no call, no consumption and no command. -/
def isNote : SessionLogEntry → Bool
  | .called _ _ _ | .consumed _ | .sent _ _ => false
  | .aborted _ | .checked _ _ | .refused _ _ | .validated _ _ | .returned _ | .rejected _ _ => true

/-- A note may be logged at any time. -/
theorem onceOnly_of_isNote {past : List SessionLogEntry} {entry : SessionLogEntry}
    (h : isNote entry = true) : OnceOnly past entry := by
  refine ⟨fun _ _ _ heq => ?_, fun _ heq => ?_, fun _ _ heq => ?_⟩ <;>
    · rw [heq] at h
      exact nomatch h

/-! ## Rely and guarantee -/

/-- What always holds of the sessions and the ledger. -/
structure Kept (world : SessionWorld NoticeWorld) : Prop where
  lawful : Trace.Lawful OnceOnly world.log
  opened : ∀ place, .consumed place ∈ world.log → world.outer.opener = some (some place)
  flagged : ∀ place command, .sent place (.dispatchMouseEvent command) ∈ world.log →
    world.outer.possibleInput place = true
  coherent : Coherent world
  logged : ∀ signal, (world.aborted.lookup signal).isSome = true → .aborted signal ∈ world.log

/-- What every step keeps. -/
structure Shared (world world' : SessionWorld NoticeWorld) : Prop where
  kept : Kept world → Kept world'
  owned : ∀ opener, world.outer.opener = some opener → world'.outer.opener = some opener
  grown : world.log <+: world'.log

/-- A step that is not of the operation at this place. -/
structure Apart (place : ℕ) (world world' : SessionWorld NoticeWorld) : Prop where
  entries : ∀ entry ∈ world'.log, entry.operation? = some place → entry ∈ world.log
  opener : world'.outer.opener = some (some place) → world.outer.opener = some (some place)
  locals : world'.locals place = world.locals place

/-- What the operation at a place relies on. -/
structure Rely (place : ℕ) (world world' : SessionWorld NoticeWorld) : Prop
    extends Shared world world', Apart place world world'

/-- What the operation at a place guarantees. -/
structure Guarantee (place : ℕ) (world world' : SessionWorld NoticeWorld) : Prop
    extends Shared world world' where
  apart : ∀ other, other ≠ place → Apart other world world'

variable {place : ℕ} {world world' world'' : SessionWorld NoticeWorld}

/-- Nothing has happened. -/
theorem Shared.rfl : Shared world world := ⟨id, fun _ h => h, List.prefix_rfl⟩

/-- Each step keeps it. -/
theorem Shared.trans (h : Shared world world') (h' : Shared world' world'') :
    Shared world world'' :=
  ⟨h'.kept ∘ h.kept, fun opener heq => h'.owned opener (h.owned opener heq),
    h.grown.trans h'.grown⟩

/-- Nothing has happened to the operation. -/
theorem Apart.rfl : Apart place world world := ⟨fun _ hmem _ => hmem, id, Eq.refl _⟩

/-- Nor in two steps of others. -/
theorem Apart.trans (h : Apart place world world') (h' : Apart place world' world'') :
    Apart place world world'' :=
  ⟨fun entry hmem hplace => h.entries entry (h'.entries entry hmem hplace) hplace,
    h.opener ∘ h'.opener, h'.locals.trans h.locals⟩

instance : Std.Refl (Rely place) where
  refl _ := ⟨.rfl, .rfl⟩

instance : IsTrans (SessionWorld NoticeWorld) (Rely place) where
  trans _ _ _ h h' := ⟨h.toShared.trans h'.toShared, h.toApart.trans h'.toApart⟩

instance : Std.Refl (Guarantee place) where
  refl _ := ⟨.rfl, fun _ _ => .rfl⟩

instance : IsTrans (SessionWorld NoticeWorld) (Guarantee place) where
  trans _ _ _ h h' :=
    ⟨h.toShared.trans h'.toShared, fun other hne => (h.apart other hne).trans (h'.apart other hne)⟩

/-- What one operation guarantees, the others rely on. -/
theorem Guarantee.rely {other : ℕ} (hne : place ≠ other) (h : Guarantee other world world') :
    Rely place world world' :=
  ⟨h.toShared, h.apart place hne⟩

/-- An entry of the operation that the law allows. -/
theorem guarantee_record {entry : SessionLogEntry} (hplace : entry.operation? = some place)
    (hlaw : Kept world → OnceOnly world.log entry)
    (hconsumed : entry = .consumed place → world.outer.opener = some (some place))
    (hsent : ∀ command, entry = .sent place (.dispatchMouseEvent command) →
      world.outer.possibleInput place = true) :
    Guarantee place world { world with log := world.log ++ [entry] } := by
  have hone : ∀ {other : ℕ} {entry' : SessionLogEntry}, entry' = entry →
      entry'.operation? = some other → other = place := fun heq hother => by
    rw [heq, hplace] at hother
    exact (Option.some.inj hother).symm
  refine ⟨⟨fun h => ⟨Trace.lawful_snoc.mpr ⟨h.lawful, hlaw h⟩, fun other hmem => ?_,
    fun other command hmem => ?_, fun signal hmem => ?_, fun signal hsome => ?_⟩, fun _ heq => heq,
    List.prefix_append _ _⟩, fun other hne => ⟨fun entry' hmem hother => ?_, id, rfl⟩⟩
  · rcases List.mem_append.mp hmem with hmem | hmem
    · exact h.opened other hmem
    · have heq := List.mem_singleton.mp hmem
      cases hone heq rfl
      exact hconsumed heq.symm
  · rcases List.mem_append.mp hmem with hmem | hmem
    · exact h.flagged other command hmem
    · have heq := List.mem_singleton.mp hmem
      cases hone heq rfl
      exact hsent command heq.symm
  · rcases List.mem_append.mp hmem with hmem | hmem
    · exact h.coherent signal hmem
    · rw [← List.mem_singleton.mp hmem] at hplace
      exact nomatch hplace
  · exact List.mem_append_left _ (h.logged signal hsome)
  · rcases List.mem_append.mp hmem with hmem | hmem
    · exact hmem
    · exact absurd (hone (List.mem_singleton.mp hmem) hother) hne

/-- A note changes nothing but the log. -/
theorem guarantee_note {entry : SessionLogEntry} (hplace : entry.operation? = some place)
    (hnote : isNote entry = true) :
    Guarantee place world { world with log := world.log ++ [entry] } := by
  refine guarantee_record hplace (fun _ => onceOnly_of_isNote hnote) (fun heq => ?_)
    fun _ heq => ?_ <;>
    · rw [heq] at hnote
      exact nomatch hnote

/-- A change of the ledger, the budgets and the flags: a file is created by the operation or not at
all, and a flag stays set. -/
structure OuterStep (place : ℕ) (outer outer' : NoticeWorld) : Prop where
  opener : outer'.opener = outer.opener ∨
    outer.opener = none ∧ outer'.opener = some (some place)
  possibleInput : ∀ other, outer.possibleInput other = true → outer'.possibleInput other = true

/-- A change of the ledger that the operation may make. -/
theorem OuterStep.guarantee {outer' : NoticeWorld} (h : OuterStep place world.outer outer') :
    Guarantee place world { world with outer := outer' } := by
  have hopener : ∀ opener, world.outer.opener = some opener → outer'.opener = some opener := by
    intro opener heq
    rcases h.opener with hsame | ⟨hnone, -⟩
    · rw [hsame, heq]
    · rw [heq] at hnone
      cases hnone
  refine ⟨⟨fun hkept => ⟨hkept.lawful, fun other hmem => hopener _ (hkept.opened other hmem),
    fun other command hmem => h.possibleInput other (hkept.flagged other command hmem),
    hkept.coherent, hkept.logged⟩, hopener, List.prefix_rfl⟩,
    fun other hne => ⟨fun _ hmem _ => hmem, fun heq => ?_, rfl⟩⟩
  rcases h.opener with hsame | ⟨-, hopened⟩
  · rw [← hsame]
    exact heq
  · have hplace : some (some other) = some (some place) := heq.symm.trans hopened
    cases hplace
    exact absurd rfl hne

/-- The local variables of the operation change. -/
theorem guarantee_locals (f : OperationLocals → OperationLocals) :
    Guarantee place world
      { world with locals := Function.update world.locals place (f (world.locals place)) } :=
  ⟨⟨fun h => ⟨h.lawful, h.opened, h.flagged, h.coherent, h.logged⟩, fun _ heq => heq,
    List.prefix_rfl⟩,
    fun _ hne => ⟨fun _ hmem _ => hmem, id, Function.update_of_ne hne _ _⟩⟩

/-! ## One operation -/

/-- How far an operation is with its budget: before the exclusive creation, after it, and once
`consume` has returned. -/
inductive Consumption where
  | unspent
  | opened
  | consumed

/-- An operation that has not spent has not opened. -/
theorem Consumption.unspent_ne : Consumption.unspent ≠ .opened := nofun

/-- Nor is one that has consumed still opening. -/
theorem Consumption.consumed_ne : Consumption.consumed ≠ .opened := nofun

/-- What this says of the world. -/
def Consumption.Holds (place : ℕ) (world : SessionWorld NoticeWorld) : Consumption → Prop
  | .unspent =>
    world.outer.opener ≠ some (some place) ∧ (world.locals place).consumed = false
  | .opened => world.outer.opener = some (some place) ∧ .consumed place ∉ world.log
  | .consumed => .consumed place ∈ world.log ∧ (world.locals place).consumed = true

/-- Where an operation is. `K` is about the commands that it has sent. -/
structure Stage (place : ℕ) (K : List SessionLogEntry → Prop) (consumption : Consumption)
    (world : SessionWorld NoticeWorld) : Prop where
  kept : Kept world
  log : K world.log
  consumption : consumption.Holds place world

/-- Only a command of the operation changes what is said of the log. -/
def Undisturbed (place : ℕ) (K : List SessionLogEntry → Prop) : Prop :=
  ∀ log log', log <+: log' →
    (∀ command, .sent place command ∈ log' → .sent place command ∈ log) → K log → K log'

/-- The part takes the operation from one stage to another, where it does not throw. -/
def Reaches (place : ℕ) (K K' : List SessionLogEntry → Prop) (consumption consumption' : Consumption)
    {α : Type} (x : SessionM NoticeWorld α) : Prop :=
  ∀ world, Stage place K consumption world →
    wp (Rely place) (Guarantee place) (fun _ => Stage place K' consumption') (fun _ _ => True) x
      world

section Operation

variable {K K' K'' : List SessionLogEntry → Prop}
  {consumption consumption' consumption'' : Consumption} {α β : Type}

/-- Others leave an operation where it is. -/
theorem Stage.rely (hK : Undisturbed place K) (h : Stage place K consumption world)
    (hrely : Rely place world world') : Stage place K consumption world' := by
  refine ⟨hrely.kept h.kept,
    hK _ _ hrely.grown (fun command hmem => hrely.entries _ hmem rfl) h.log, ?_⟩
  have hconsumption := h.consumption
  cases consumption with
  | unspent => exact ⟨fun heq => hconsumption.1 (hrely.opener heq), by rw [hrely.locals, hconsumption.2]⟩
  | opened => exact ⟨hrely.owned _ hconsumption.1, fun hmem => hconsumption.2 (hrely.entries _ hmem rfl)⟩
  | consumed => exact ⟨hrely.grown.subset hconsumption.1, by rw [hrely.locals, hconsumption.2]⟩

/-- One part after the other. -/
theorem Reaches.bind {x : SessionM NoticeWorld α} {f : α → SessionM NoticeWorld β}
    (hx : Reaches place K K' consumption consumption' x)
    (hf : ∀ a, Reaches place K' K'' consumption' consumption'' (f a)) :
    Reaches place K K'' consumption consumption'' (x >>= f) := by
  intro world h
  rw [wp_bind]
  exact wp_mono (hx world h) (fun a world' h' => hf a world' h') fun _ _ h => h

/-- A part that only looks stays where it is. -/
theorem reaches_inert (hK : Undisturbed place K) {x : SessionM NoticeWorld α} (hx : Inert x) :
    Reaches place K K consumption consumption x := fun _ h =>
  wp_mono (hx.wp (fun _ _ h hrely => h.rely hK hrely) h) (fun _ _ h => h) fun _ _ _ => trivial

/-! ### The budget -/

/-- A callback that creates no file and sets no flag. -/
def KeepsOpener (step : CallbackStep NoticeWorld) : Prop :=
  ∀ outer, (step outer).2.opener = outer.opener ∧
    (step outer).2.possibleInput = outer.possibleInput

/-- The world's outer state changes without a new file. -/
theorem Stage.outer {outer : NoticeWorld} (h : Stage place K consumption world)
    (hopener : outer.opener = world.outer.opener)
    (hguarantee : Guarantee place world { world with outer := outer }) :
    Stage place K consumption { world with outer := outer } := by
  refine ⟨hguarantee.kept h.kept, h.log, ?_⟩
  have hconsumption := h.consumption
  cases consumption with
  | unspent => exact ⟨fun heq => hconsumption.1 (hopener ▸ heq), hconsumption.2⟩
  | opened => exact ⟨hopener.trans hconsumption.1, hconsumption.2⟩
  | consumed => exact hconsumption

/-- A callback that creates no file stays there too. -/
theorem callback_reaches {step : CallbackStep NoticeWorld} (hstep : KeepsOpener step) :
    Reaches place K K consumption consumption (callback step) := by
  intro world h
  obtain ⟨hopener, hinput⟩ := hstep world.outer
  have hguarantee : Guarantee place world { world with outer := (step world.outer).2 } :=
    OuterStep.guarantee ⟨.inl hopener, fun _ hother => by rwa [hinput]⟩
  rw [callback, wp_bind, wp_get]
  refine ⟨refl world, ?_⟩
  rw [wp_bind]
  refine ⟨hguarantee, ?_⟩
  cases (step world.outer).1 with
  | ok _ => exact h.outer hopener hguarantee
  | error error => exact trivial

/-- A look at the budget creates none. -/
theorem look_keepsOpener (budget : ℕ)
    (f : FreshNoticeBudget → NoticeLedger → Except ThrownError Unit) :
    KeepsOpener (NoticeWorld.look budget f) := by
  intro outer
  unfold NoticeWorld.look
  split <;> exact ⟨rfl, rfl⟩

/-- Spending is in memory only. -/
theorem spend_keepsOpener (budget : ℕ) : KeepsOpener (NoticeWorld.spend budget) := by
  intro outer
  unfold NoticeWorld.spend
  split
  · exact ⟨rfl, rfl⟩
  · split <;> exact ⟨rfl, rfl⟩

/-- The document is written into a file that was created before. -/
theorem write_keepsOpener (library : NoticeLibrary) (budget : ℕ) (lease : RuntimeLease)
    (document : NoticeDocument) : KeepsOpener (NoticeWorld.write library budget lease document) := by
  intro outer
  unfold NoticeWorld.write
  split
  · exact ⟨rfl, rfl⟩
  · exact ⟨rfl, rfl⟩
  · refine ⟨?_, rfl⟩
    simp only [NoticeWorld.opener, FreshNoticeBudget.writeConsumed, Option.map_map]
    rfl

/-- A flush creates none. -/
theorem flush_keepsOpener : KeepsOpener NoticeWorld.flush := by
  intro outer
  unfold NoticeWorld.flush
  split <;> exact ⟨rfl, rfl⟩

/-- Nor does the closing of it. -/
theorem close_keepsOpener : KeepsOpener NoticeWorld.close := fun _ => ⟨rfl, rfl⟩

/-- The exclusive creation succeeds for one operation only. -/
theorem create_reaches : Reaches place K K .unspent .opened (callback (NoticeWorld.create place)) := by
  intro world h
  rw [callback, wp_bind, wp_get]
  refine ⟨refl world, ?_⟩
  rw [wp_bind, NoticeWorld.create]
  cases hopen : FreshNoticeBudget.openConsumed world.outer.ledger place with
  | error error => exact ⟨OuterStep.guarantee ⟨.inl rfl, fun _ hother => hother⟩, trivial⟩
  | ok ledger =>
    have hopener : world.outer.opener = none ∧
        ({ world.outer with ledger } : NoticeWorld).opener = some (some place) := by
      unfold FreshNoticeBudget.openConsumed at hopen
      split at hopen <;> cases hopen
      rename_i hnone
      exact ⟨by rw [NoticeWorld.opener, hnone]; rfl, rfl⟩
    have hguarantee : Guarantee place world { world with outer := { world.outer with ledger } } :=
      OuterStep.guarantee ⟨.inr hopener, fun _ hother => hother⟩
    refine ⟨hguarantee, hguarantee.kept h.kept, h.log, hopener.2, fun hmem => ?_⟩
    -- who has consumed before has created the file
    exact h.consumption.1 (h.kept.opened place hmem)

/-- One step of a callback after the other. -/
theorem Reaches.cons (hK : Undisturbed place K) {step next : CallbackStep NoticeWorld}
    {steps : List (CallbackStep NoticeWorld)}
    (hstep : Reaches place K K consumption consumption' (callback step))
    (hsteps : Reaches place K K consumption' consumption'' (callbackSteps (next :: steps))) :
    Reaches place K K consumption consumption'' (callbackSteps (step :: next :: steps)) :=
  hstep.bind fun _ => (reaches_inert hK (inert_ask _)).bind fun _ => hsteps

/-- All of `consume`. The exclusive creation is the only step that creates the file. -/
theorem consume_reaches (hK : Undisturbed place K) (library : NoticeLibrary) (budget : ℕ)
    (lease : RuntimeLease) (document : NoticeDocument) :
    Reaches place K K .unspent .opened
      (callbackSteps (NoticeWorld.consume library budget place lease document)) := by
  refine .cons hK (callback_reaches (look_keepsOpener budget _)) ?_
  refine .cons hK (callback_reaches (look_keepsOpener budget _)) ?_
  refine .cons hK (callback_reaches (spend_keepsOpener budget)) ?_
  refine .cons hK create_reaches ?_
  refine .cons hK (callback_reaches (write_keepsOpener library budget lease document)) ?_
  exact .cons hK (callback_reaches flush_keepsOpener) (callback_reaches close_keepsOpener)

/-- The file is the operation's, so nobody else has consumed. -/
theorem Stage.guarantee_consumed (h : Stage place K .opened world) :
    Guarantee place world { world with log := world.log ++ [.consumed place] } := by
  obtain ⟨hopener, hunconsumed⟩ := h.consumption
  refine guarantee_record rfl (fun hkept => ?_) (fun _ => hopener) (fun _ heq => nomatch heq)
  refine ⟨(fun _ _ _ heq => nomatch heq), fun _ _ other hmem => ?_, (fun _ _ heq => nomatch heq)⟩
  have hother := (hkept.opened other hmem).symm.trans hopener
  cases hother
  exact hunconsumed hmem

end Operation

/-! ### The two clicks -/

/-- The operation was called with this signal, and has not sent the mouse events that remain. -/
structure Carried (place : ℕ) (signal : OperationSignal) (remaining : List NoticeMouseType)
    (log : List SessionLogEntry) : Prop where
  called : ∃ method, .called place method (some signal) ∈ log
  unsent : ∀ command, command.type ∈ remaining → .sent place (.dispatchMouseEvent command) ∉ log

/-- What was sent before is not changed by other entries. -/
theorem carried_undisturbed (signal : OperationSignal) (remaining : List NoticeMouseType) :
    Undisturbed place (Carried place signal remaining) := by
  intro log log' hgrown hsent h
  obtain ⟨method, hcalled⟩ := h.called
  exact ⟨⟨method, hgrown.subset hcalled⟩,
    fun command hremaining hmem => h.unsent command hremaining (hsent _ hmem)⟩

/-- A mouse event is sent by the operation that has consumed. -/
theorem Kept.consumed_of_sent (h : Kept world) {command : NoticeMouseCommand}
    (hsent : .sent place (.dispatchMouseEvent command) ∈ world.log) :
    .consumed place ∈ world.log := by
  obtain ⟨past, future, hsplit⟩ := List.append_of_mem hsent
  have hlaw := (h.lawful past _ future hsplit).sent place command rfl
  rw [hsplit]
  exact List.mem_append_left _ hlaw.1

section Dismissal

variable {signal : OperationSignal} {remaining rest : List NoticeMouseType}
  {command : NoticeMouseCommand} {consumption : Consumption}

/-- The operation has consumed, and its signal is not aborted. -/
def Entitled (place : ℕ) (signal : OperationSignal) (remaining : List NoticeMouseType)
    (world : SessionWorld NoticeWorld) : Prop :=
  Stage place (Carried place signal remaining) .consumed world ∧ NotAborted (some signal) world

/-- The check of the signal that follows a part of the operation. -/
theorem wp_entitled (h : Stage place (Carried place signal remaining) .consumed world) :
    wp (Rely place) (Guarantee place) (fun _ => Entitled place signal remaining) (fun _ _ => True)
      (throwIfAborted (some signal)) world := by
  refine wp_mono wp_throwIfAborted ?_ fun _ _ _ => trivial
  rintro _ _ ⟨rfl, haborted⟩
  exact ⟨h, haborted⟩

/-- The flag is set before the event is sent. -/
theorem wp_onPossibleInput (h : Entitled place signal remaining world) :
    wp (Rely place) (Guarantee place)
      (fun _ world' => Entitled place signal remaining world' ∧
        world'.outer.possibleInput place = true) (fun _ _ => True)
      (callback (NoticeWorld.onPossibleInput place)) world := by
  have hguarantee : Guarantee place world { world with
      outer := (NoticeWorld.onPossibleInput place world.outer).2 } := by
    refine OuterStep.guarantee ⟨.inl rfl, fun other hother => ?_⟩
    by_cases heq : other = place
    · rw [heq]
      exact Function.update_self _ _ _
    · exact (Function.update_of_ne heq _ _).trans hother
  rw [callback, wp_bind, wp_get]
  refine ⟨refl world, ?_⟩
  rw [wp_bind]
  exact ⟨hguarantee, ⟨h.1.outer rfl hguarantee, h.2⟩, Function.update_self _ _ _⟩

/-- The event is the first of its kind. -/
theorem wp_sendMouse (h : Entitled place signal remaining world)
    (hinput : world.outer.possibleInput place = true) (hremaining : command.type ∈ remaining)
    (hrest : ∀ type ∈ rest, type ∈ remaining ∧ type ≠ command.type) :
    wp (Rely place) (Guarantee place)
      (fun _ => Stage place (Carried place signal rest) .consumed) (fun _ _ => True)
      (send place (.dispatchMouseEvent command)) world := by
  obtain ⟨hstage, haborted⟩ := h
  obtain ⟨method, hcalled⟩ := hstage.log.called
  have hguarantee : Guarantee place world
      { world with log := world.log ++ [.sent place (.dispatchMouseEvent command)] } := by
    refine guarantee_record rfl (fun hkept => ?_) (fun heq => nomatch heq) fun _ _ => hinput
    refine ⟨(fun _ _ _ heq => nomatch heq), (fun _ heq => nomatch heq), fun place' command' heq => ?_⟩
    cases heq
    refine ⟨hstage.consumption.1, ⟨method, signal, hcalled,
      haborted.log hkept.coherent signal rfl⟩, fun other command' hmem htype => ?_⟩
    -- the sender of the other event has consumed, so it is this operation
    have hother := (hkept.opened other (hkept.consumed_of_sent hmem)).symm.trans
      (hkept.opened place hstage.consumption.1)
    cases hother
    exact hstage.log.unsent command' (htype ▸ hremaining) hmem
  have hsent : Stage place (Carried place signal rest) .consumed
      { world with log := world.log ++ [.sent place (.dispatchMouseEvent command)] } := by
    refine ⟨hguarantee.kept hstage.kept, ⟨⟨method, List.mem_append_left _ hcalled⟩,
      fun command' htype hmem => ?_⟩, List.mem_append_left _ hstage.consumption.1,
      hstage.consumption.2⟩
    rcases List.mem_append.mp hmem with hmem | hmem
    · exact hstage.log.unsent command' (hrest _ htype).1 hmem
    · cases List.mem_singleton.mp hmem
      exact (hrest _ htype).2 rfl
  refine wp_record hguarantee ?_
  rw [wp_bind, wp_ask]
  intro outcome world' hrely
  cases outcome with
  | ok answer => exact hsent.rely (carried_undisturbed signal rest) hrely
  | error error => exact trivial

/-- The validation consumes, unless it has already. -/
theorem validateNotice_reaches {K : List SessionLogEntry → Prop} (hK : Undisturbed place K)
    (hconsumption : consumption ≠ .opened) (config : ChromeSessionConfig) (library : NoticeLibrary)
    (budget : ℕ) (lease : RuntimeLease) (document : NoticeDocument) (selected : SelectedNotice)
    (descendants : List Rat) (initialQuads : List (List Rat)) (point : NoticePoint) :
    Reaches place K K consumption .consumed
      (validateNotice config place selected descendants initialQuads point
        (NoticeWorld.consume library budget place lease document)) := by
  have hhit : Reaches place K K .consumed .consumed (do
      let hit ← observe (.getNodeForLocation point)
      Coroutine.onlyIf (hit.frameId != selected.frameId || !descendants.contains hit.backendNodeId)
        (throw readinessFailed) : SessionM NoticeWorld Unit) :=
    reaches_inert hK ((observe_inert _).bind fun _ => (inert_throw _).onlyIf)
  refine (reaches_inert hK (readCurrent_inert selected)).bind fun _ => ?_
  refine (reaches_inert hK (observe_inert _)).bind fun _ => ?_
  refine (reaches_inert hK (inert_throw _).onlyIf).bind fun _ => ?_
  refine (reaches_inert hK (observe_inert _)).bind fun _ => ?_
  refine (reaches_inert hK (observe_inert _)).bind fun _ => ?_
  refine (reaches_inert hK (inert_settle _)).bind fun _ => ?_
  refine (reaches_inert hK (inert_throw _).onlyIf).bind fun _ world h => ?_
  rw [wp_bind, wp_get]
  refine ⟨refl world, ?_⟩
  have hholds := h.consumption
  -- The validation runs twice: the first one consumes, and the second finds it done.
  cases consumption with
  | opened => exact absurd rfl hconsumption
  | consumed =>
    rw [if_pos hholds.2]
    exact hhit world h
  | unspent =>
    rw [if_neg (by rw [hholds.2]; exact Bool.false_ne_true)]
    rw [wp_bind]
    refine wp_mono (consume_reaches hK library budget lease document world h)
      (fun _ world h => ?_) fun _ _ h => h
    have hlocals : Guarantee place world _ :=
      guarantee_locals fun locals => { locals with consumed := true }
    have hopened : Stage place K .opened _ := ⟨hlocals.kept h.kept, h.log, h.consumption⟩
    have hconsumed := hopened.guarantee_consumed
    refine wp_setLocals hlocals (wp_record hconsumed (hhit _ ⟨hconsumed.kept hopened.kept, ?_, ?_⟩))
    · refine hK _ _ (List.prefix_append _ _) (fun command hmem => ?_) hopened.log
      rcases List.mem_append.mp hmem with hmem | hmem
      · exact hmem
      · exact nomatch List.mem_singleton.mp hmem
    · refine ⟨List.mem_append_right _ (List.mem_singleton_self _), ?_⟩
      show (Function.update world.locals place _ place).consumed = true
      rw [Function.update_self]

end Dismissal

section Dispatch

variable {signal : OperationSignal} {remaining rest : List NoticeMouseType}
  {command : NoticeMouseCommand} {consumption : Consumption}

/-- The validation of a mouse event, the check of the signal, the flag and the event. -/
theorem wp_validatedSend {validate : SessionM NoticeWorld Unit}
    (hvalidate : Reaches place (Carried place signal remaining) (Carried place signal remaining)
      consumption .consumed validate)
    (hremaining : command.type ∈ remaining)
    (hrest : ∀ type ∈ rest, type ∈ remaining ∧ type ≠ command.type) :
    Reaches place (Carried place signal remaining) (Carried place signal rest) consumption .consumed
      (ChromeRemoteInterfaceSession.dispatchNoticeMouse ⟨send place⟩ command
        ⟨validate, NoticeWorld.onPossibleInput place⟩ (some signal)) := by
  refine (reaches_inert (carried_undisturbed signal remaining) throwIfAborted_inert).bind fun _ => ?_
  refine hvalidate.bind fun _ world h => ?_
  rw [wp_bind]
  refine wp_mono (wp_entitled h) (fun _ world h => ?_) fun _ _ h => h
  rw [wp_bind]
  refine wp_mono (wp_onPossibleInput h) (fun _ world h => ?_) fun _ _ h => h
  exact wp_sendMouse h.1 h.2 hremaining hrest

/-- A note, wherever the operation is, except between the creation and the return of `consume`. -/
theorem note_reaches {K : List SessionLogEntry → Prop} (hK : Undisturbed place K)
    (hconsumption : consumption ≠ .opened) (entry : SessionLogEntry)
    (hplace : entry.operation? = some place) (hnote : isNote entry = true) :
    Reaches place K K consumption consumption (record entry : SessionM NoticeWorld Unit) := by
  intro world h
  have hguarantee : Guarantee place world { world with log := world.log ++ [entry] } :=
    guarantee_note hplace hnote
  refine ⟨hguarantee, hguarantee.kept h.kept,
    hK _ _ (List.prefix_append _ _) (fun command hmem => ?_) h.log, ?_⟩
  · rcases List.mem_append.mp hmem with hmem | hmem
    · exact hmem
    · rw [← List.mem_singleton.mp hmem] at hnote
      exact nomatch hnote
  · have hholds := h.consumption
    cases consumption with
    | unspent => exact hholds
    | opened => exact absurd rfl hconsumption
    | consumed => exact ⟨List.mem_append_left _ hholds.1, hholds.2⟩

/-- The same, where the client checks before the event. -/
theorem guardedNoticeMouse_reaches {validate : SessionM NoticeWorld Unit}
    (hconsumption : consumption ≠ .opened)
    (hvalidate : Reaches place (Carried place signal remaining) (Carried place signal remaining)
      consumption .consumed validate)
    (hremaining : command.type ∈ remaining)
    (hrest : ∀ type ∈ rest, type ∈ remaining ∧ type ≠ command.type) :
    Reaches place (Carried place signal remaining) (Carried place signal rest) consumption .consumed
      (MutationGuardedChromeRemoteInterfaceSession.guardedNoticeMouse place (some signal) command
        ⟨validate, NoticeWorld.onPossibleInput place⟩) := by
  have hK : Undisturbed place (Carried place signal remaining) :=
    carried_undisturbed signal remaining
  have hthrow : Reaches place (Carried place signal remaining) (Carried place signal remaining)
      consumption consumption (throwIfAborted (some signal) : SessionM NoticeWorld Unit) :=
    reaches_inert hK throwIfAborted_inert
  have hcheck : Reaches place (Carried place signal remaining) (Carried place signal remaining)
      consumption consumption (MutationGuardedChromeRemoteInterfaceSession.beforeMutation place
        (.dispatchMouseEvent command) : SessionM NoticeWorld Unit) := by
    refine (reaches_inert hK (inert_ask _)).bind fun outcome => ?_
    cases outcome with
    | ok _ =>
      exact (note_reaches hK hconsumption (.checked place _) rfl rfl).bind fun _ _ h => h
    | error error =>
      refine (note_reaches hK hconsumption (.refused place _) rfl rfl).bind fun _ => ?_
      exact fun _ _ => trivial
  refine hthrow.bind fun _ => hcheck.bind fun _ => hthrow.bind fun _ world h => ?_
  rw [wp_bind]
  -- the semantic guard of a mouse event: the validation, then the flag
  have hguard : wp (Rely place) (Guarantee place)
      (fun _ world' => Entitled place signal remaining world' ∧
        world'.outer.possibleInput place = true) (fun _ _ => True)
      (MutationGuardedChromeRemoteInterfaceSession.semanticGuard place
        { signal := some signal
          inputDispatchMouseEvent := true
          noticeMouseGuard := some ⟨validate, NoticeWorld.onPossibleInput place⟩ }
        (.dispatchMouseEvent command)) world := by
    refine (wp_bind _ _).mpr ((wp_bind _ _).mpr ?_)
    refine (wp_bind _ _).mpr (wp_mono (hvalidate world h) (fun _ world h => ?_) fun _ _ h => h)
    have hnote : Reaches place _ _ .consumed .consumed _ :=
      note_reaches hK Consumption.consumed_ne (.validated place (.dispatchMouseEvent command)) rfl rfl
    refine wp_mono (hnote world h) (fun _ world h => ?_) fun _ _ h => h
    exact wp_mono (wp_entitled h) (fun _ world h => wp_onPossibleInput h) fun _ _ h => h
  exact wp_mono hguard (fun _ world h => wp_sendMouse h.1 h.2 hremaining hrest) fun _ _ h => h

/-- A mouse event is sent at most once, behind its validation. -/
theorem dispatchNoticeMouse_reaches (guarded : Bool) {validate : SessionM NoticeWorld Unit}
    (hconsumption : consumption ≠ .opened)
    (hvalidate : Reaches place (Carried place signal remaining) (Carried place signal remaining)
      consumption .consumed validate)
    (hremaining : command.type ∈ remaining)
    (hrest : ∀ type ∈ rest, type ∈ remaining ∧ type ≠ command.type) :
    Reaches place (Carried place signal remaining) (Carried place signal rest) consumption .consumed
      (dispatchNoticeMouse guarded place (some signal) command
        ⟨validate, NoticeWorld.onPossibleInput place⟩) := by
  cases guarded with
  | true => exact guardedNoticeMouse_reaches hconsumption hvalidate hremaining hrest
  | false => exact wp_validatedSend hvalidate hremaining hrest

variable (config : ChromeSessionConfig) (library : NoticeLibrary)

/-- The whole operation: a press and a release, each once. -/
theorem dismissKnownFreshNotice_keeps (guarded : Bool) (session : SessionId) (fuel : ℕ)
    (snapshot : ExistingReadinessSnapshot) (budget : ℕ) (lease : RuntimeLease)
    (document : NoticeDocument)
    (h : Stage place (Carried place signal [.mousePressed, .mouseReleased]) .unspent world) :
    wp (Rely place) (Guarantee place) (fun _ _ => True) (fun _ _ => True)
      (dismissKnownFreshNotice config session place
        (dispatchNoticeMouse guarded place (some signal)) fuel snapshot
        (NoticeWorld.consume library budget place lease document)
        (NoticeWorld.onPossibleInput place) (some signal)) world := by
  have hK : ∀ remaining, Undisturbed place (Carried place signal remaining) :=
    carried_undisturbed signal
  -- Both mouse events are dispatched by the same method: the press validates and consumes, the
  -- release finds it consumed.
  have hpressed : ∀ {point : NoticePoint} {validate : SessionM NoticeWorld Unit},
      Reaches place (Carried place signal [.mousePressed, .mouseReleased])
        (Carried place signal [.mousePressed, .mouseReleased]) .unspent .consumed validate →
      Reaches place (Carried place signal [.mousePressed, .mouseReleased])
        (Carried place signal [.mouseReleased]) .unspent .consumed
        (dispatchNoticeMouse guarded place (some signal) ⟨point, .mousePressed⟩
          ⟨validate, NoticeWorld.onPossibleInput place⟩) := fun hvalidate =>
    dispatchNoticeMouse_reaches guarded Consumption.unspent_ne hvalidate List.mem_cons_self (by simp)
  have hreleased : ∀ {point : NoticePoint} {validate : SessionM NoticeWorld Unit},
      Reaches place (Carried place signal [.mouseReleased]) (Carried place signal [.mouseReleased])
        .consumed .consumed validate →
      Reaches place (Carried place signal [.mouseReleased]) (Carried place signal [])
        .consumed .consumed
        (dispatchNoticeMouse guarded place (some signal) ⟨point, .mouseReleased⟩
          ⟨validate, NoticeWorld.onPossibleInput place⟩) := fun hvalidate =>
    dispatchNoticeMouse_reaches guarded Consumption.consumed_ne hvalidate List.mem_cons_self
      (by simp)
  rw [dismissKnownFreshNotice, wp_bind, wp_get]
  refine ⟨refl world, ?_⟩
  split
  swap
  · exact trivial
  -- The operation is taken step by step; all but the two dispatches are inert.
  refine wp_mono ((?_ : Reaches place (Carried place signal [.mousePressed, .mouseReleased])
    (Carried place signal []) .unspent .consumed _) world h) (fun _ _ _ => trivial) fun _ _ h => h
  refine (reaches_inert (hK _) (inert_throw _).onlyIf).bind fun _ => ?_
  refine (reaches_inert (hK _) (readCurrent_inert _)).bind fun _ => ?_
  refine (reaches_inert (hK _) (observe_inert _)).bind fun button => ?_
  refine (reaches_inert (hK _) (inert_throw _).onlyIf).bind fun _ => ?_
  refine (reaches_inert (hK _) (observe_inert _)).bind fun quads => ?_
  refine (reaches_inert (hK _) (observe_inert _)).bind fun viewport => ?_
  refine (reaches_inert (hK _) (inert_settle _)).bind fun point => ?_
  refine (hpressed (validateNotice_reaches (hK _) Consumption.unspent_ne config library budget lease
    document _ _ quads point)).bind fun _ => ?_
  refine (hreleased (validateNotice_reaches (hK _) Consumption.consumed_ne config library budget
    lease document _ _ quads point)).bind fun _ => ?_
  exact reaches_inert (hK _) (awaitDismissed_inert _ fuel)

end Dispatch

/-! ### Operations that start -/

/-- Nothing has been done at this place. -/
structure Fresh (place : ℕ) (world : SessionWorld NoticeWorld) : Prop where
  entries : ∀ entry ∈ world.log, entry.operation? ≠ some place
  opener : world.outer.opener ≠ some (some place)
  locals : (world.locals place).consumed = false

/-- Nothing was done here by others. -/
theorem Fresh.apart (h : Fresh place world) (hstep : Apart place world world') :
    Fresh place world' where
  entries entry hmem hplace := h.entries entry (hstep.entries entry hmem hplace) hplace
  opener heq := h.opener (hstep.opener heq)
  locals := by rw [hstep.locals, h.locals]

/-- The call of an operation is logged first. -/
theorem Fresh.guarantee_called (h : Fresh place world) (method : SessionMethodName)
    (signal : Option OperationSignal) :
    Guarantee place world { world with log := world.log ++ [.called place method signal] } := by
  refine guarantee_record rfl (fun _ => ?_) (fun heq => nomatch heq) fun _ heq => nomatch heq
  refine ⟨fun place' _ _ heq method' signal' hmem => ?_, (fun _ heq => nomatch heq),
    (fun _ _ heq => nomatch heq)⟩
  cases heq
  exact h.entries _ hmem rfl

/-- The whole dismissal, from nothing done at this place. -/
theorem dismissal_keeps (config : ChromeSessionConfig) (library : NoticeLibrary)
    (options : ℕ → NoticeOptions) (manager budget : ℕ) (session : SessionId)
    (snapshot : ExistingReadinessSnapshot) (lease : RuntimeLease) (signal : OperationSignal)
    (fuel : ℕ) (hkept : Kept world) (h : Fresh place world) :
    wp (Rely place) (Guarantee place) (fun _ _ => True) (fun _ _ => True)
      (dismissal config library options manager budget place session snapshot lease signal fuel)
      world := by
  have hcalled := h.guarantee_called .dismissKnownFreshNotice
    (rawMutationSignal options manager signal)
  refine wp_record hcalled ?_
  cases hsignal : rawMutationSignal options manager signal with
  | none =>
    -- without a signal the operation throws before it does anything
    rw [dismissKnownFreshNotice, wp_bind, wp_get]
    refine ⟨refl _, ?_⟩
    split
    swap
    · exact trivial
    rw [wp_bind, wp_onlyIf, if_pos (by simp)]
    exact trivial
  | some raw =>
    rw [hsignal] at hcalled
    refine dismissKnownFreshNotice_keeps config library _ _ fuel snapshot budget lease _
      ⟨hcalled.kept hkept, ⟨⟨.dismissKnownFreshNotice, List.mem_append_right _
        (List.mem_singleton_self _)⟩, fun command _ hmem => ?_⟩, h.opener, h.locals⟩
    rcases List.mem_append.mp hmem with hmem | hmem
    · exact h.entries _ hmem rfl
    · exact nomatch List.mem_singleton.mp hmem

/-- And a consumption outside of any session. -/
theorem consumeAlone_keeps (library : NoticeLibrary) (budget : ℕ) (lease : RuntimeLease)
    (document : NoticeDocument) (hkept : Kept world) (h : Fresh place world) :
    wp (Rely place) (Guarantee place) (fun _ _ => True) (fun _ _ => True)
      (consumeAlone library budget place lease document) world := by
  have hK : Undisturbed place fun _ => True := fun _ _ _ _ _ => trivial
  rw [consumeAlone, wp_bind]
  refine wp_mono (consume_reaches hK library budget lease document world
    ⟨hkept, trivial, h.opener, h.locals⟩) (fun _ world h => ?_) fun _ _ h => h
  exact ⟨h.guarantee_consumed, trivial⟩

/-! ## The sessions of the system -/

/-- A step of no operation. -/
structure Aside (world world' : SessionWorld NoticeWorld) : Prop extends Shared world world' where
  apart : ∀ place, Apart place world world'

/-- The outer state changes without a new file of an operation. -/
theorem aside_outer {outer : NoticeWorld}
    (howned : ∀ opener, world.outer.opener = some opener → outer.opener = some opener)
    (hcreated : ∀ place, outer.opener = some (some place) → world.outer.opener = some (some place))
    (hinput : outer.possibleInput = world.outer.possibleInput) :
    Aside world { world with outer := outer } := by
  refine ⟨⟨fun h => ⟨h.lawful, fun place hmem => howned _ (h.opened place hmem),
    fun place command hmem => ?_, h.coherent, h.logged⟩, howned, List.prefix_rfl⟩,
    fun place => ⟨fun _ hmem _ => hmem, hcreated place, rfl⟩⟩
  rw [hinput]
  exact h.flagged place command hmem

/-- A new budget has spent nothing. -/
theorem aside_construct (library : NoticeLibrary) (intent : Text) :
    Aside world { world with outer := world.outer.construct library intent } := by
  unfold NoticeWorld.construct
  split <;> exact aside_outer (fun _ h => h) (fun _ h => h) rfl

/-- The ledger may be changed by another program, which keeps the files that are there. -/
theorem aside_changeLedger (ledger : NoticeLedger) :
    Aside world { world with outer := world.outer.changeLedger ledger } := by
  have hopener : (world.outer.changeLedger ledger).opener =
      world.outer.opener.or (ledger.consumedFile.map fun _ => none) := by
    simp only [NoticeWorld.opener, NoticeWorld.changeLedger]
    cases world.outer.ledger.consumedFile <;> cases ledger.consumedFile <;> rfl
  refine aside_outer (fun opener heq => ?_) (fun place heq => ?_) rfl
  · rw [hopener, heq]
    rfl
  · rw [hopener] at heq
    cases hworld : world.outer.opener with
    | some opener =>
      rw [hworld] at heq
      exact heq
    | none =>
      rw [hworld] at heq
      cases hfile : ledger.consumedFile <;> rw [hfile] at heq <;> cases heq

/-- The fields of a session are not about the ledger. -/
theorem aside_setFields (session : SessionId) (f : SessionFields → SessionFields) :
    Aside world (MutationGuardedChromeRemoteInterfaceSession.setFields session f world) :=
  ⟨⟨fun h => ⟨h.lawful, h.opened, h.flagged, h.coherent, h.logged⟩, fun _ h => h,
    List.prefix_rfl⟩, fun _ => ⟨fun _ hmem _ => hmem, id, rfl⟩⟩

/-- An abort sends nothing. -/
theorem aside_abort (signal : OperationSignal) (reason : Option ThrownError) :
    Aside world (MutationGuardedChromeRemoteInterfaceSession.abort signal reason world) := by
  have hcoherent : Coherent world → Coherent
      (MutationGuardedChromeRemoteInterfaceSession.abort signal reason world) :=
    fun h => MutationGuardedChromeRemoteInterfaceSession.coherent_abort h signal reason
  rcases MutationGuardedChromeRemoteInterfaceSession.abort_cases signal reason world with
    ⟨hsame, -⟩ | habort
  · rw [hsame]
    exact ⟨.rfl, fun _ => .rfl⟩
  rw [habort] at hcoherent ⊢
  have hold : ∀ {entry : SessionLogEntry}, entry ∈ world.log ++ [.aborted signal] →
      entry ≠ .aborted signal → entry ∈ world.log := fun hmem hne =>
    (List.mem_append.mp hmem).elim id fun hmem => absurd (List.mem_singleton.mp hmem) hne
  refine ⟨⟨fun h => ⟨Trace.lawful_snoc.mpr ⟨h.lawful, onceOnly_of_isNote rfl⟩,
    fun place hmem => h.opened place (hold hmem fun heq => nomatch heq),
    fun place command hmem => h.flagged place command (hold hmem fun heq => nomatch heq),
    hcoherent h.coherent, fun other hsome => ?_⟩, fun _ heq => heq, List.prefix_append _ _⟩,
    fun place => ⟨fun entry hmem hplace => hold hmem fun heq => ?_, id, rfl⟩⟩
  · rw [List.lookup_append, Option.isSome_or, Bool.or_eq_true] at hsome
    rcases hsome with hsome | hsome
    · exact List.mem_append_left _ (h.logged other hsome)
    · have heq : other = signal := by
        by_contra hne
        simp [hne] at hsome
      rw [heq]
      exact List.mem_append_right _ (List.mem_singleton_self _)
  · rw [heq] at hplace
    cases hplace

/-- What holds of the sessions in every state. -/
structure PoolSafe (pool : MutationGuardedChromeRemoteInterfaceSession.SessionPool NoticeWorld) :
    Prop where
  sound : Pool.Sound Rely Guarantee (fun _ _ _ => True) (fun _ _ _ => True) pool
  kept : Kept pool.state
  fresh : ∀ place, pool.running.length ≤ place → Fresh place pool.state

/-- A step of the sessions. An operation that has ended sends nothing more. -/
structure PoolStep
    (pool pool' : MutationGuardedChromeRemoteInterfaceSession.SessionPool NoticeWorld) : Prop where
  safe : PoolSafe pool'
  grown : pool.state.log <+: pool'.state.log
  running : pool.running.length ≤ pool'.running.length
  ended : ∀ place outcome, pool.running[place]? = some (.done outcome) →
    pool'.running[place]? = some (.done outcome) ∧
      ∀ command, .sent place command ∈ pool'.state.log → .sent place command ∈ pool.state.log

variable {pool : MutationGuardedChromeRemoteInterfaceSession.SessionPool NoticeWorld}

/-- A step of no operation. -/
theorem PoolSafe.move (h : PoolSafe pool)
    {f : SessionWorld NoticeWorld → SessionWorld NoticeWorld}
    (hf : Aside pool.state (f pool.state)) : PoolStep pool (pool.move f) := by
  refine ⟨⟨h.sound.move fun place => ⟨hf.toShared, hf.apart place⟩, hf.kept h.kept,
    fun place hplace => (h.fresh place hplace).apart (hf.apart place)⟩, hf.grown, Nat.le_refl _,
    fun place outcome hdone => ⟨hdone, fun command hmem => (hf.apart place).entries _ hmem rfl⟩⟩

/-- What one operation guarantees, another one relies on. -/
theorem rely_of_guarantee (position other : ℕ) (world world' : SessionWorld NoticeWorld)
    (hne : position ≠ other) (h : Guarantee other world world') : Rely position world world' :=
  h.rely hne

/-- A call starts at a new place. -/
theorem PoolSafe.start (h : PoolSafe pool) {x : SessionM NoticeWorld Unit}
    (hx : wp (Rely pool.running.length) (Guarantee pool.running.length) (fun _ _ => True)
      (fun _ _ => True) x pool.state) : PoolStep pool (pool.start x) := by
  obtain ⟨hsound, hguarantee⟩ := h.sound.start rely_of_guarantee hx
  have hlength : (pool.start x).running.length = pool.running.length + 1 := List.length_append
  refine ⟨⟨hsound, hguarantee.kept h.kept, fun place hplace => ?_⟩, hguarantee.grown,
    hlength ▸ Nat.le_succ _, fun place outcome hdone => ⟨Pool.done_start hdone, fun command hmem => ?_⟩⟩
  · rw [hlength] at hplace
    exact (h.fresh place (Nat.le_of_succ_le hplace)).apart
      (hguarantee.apart place (Nat.ne_of_gt hplace))
  · have hlt := (List.getElem?_eq_some_iff.mp hdone).1
    exact (hguarantee.apart place (Nat.ne_of_lt hlt)).entries _ hmem rfl

/-- An answer moves the operation that it is for. -/
theorem PoolSafe.resume (h : PoolSafe pool) (answered : ℕ)
    (answers : ∀ request : SessionRequest, Option request.Answer) :
    PoolStep pool (pool.resume answered answers) := by
  obtain ⟨hsound, hguarantee⟩ := h.sound.resume rely_of_guarantee answered answers
  refine ⟨⟨hsound, hguarantee.kept h.kept, fun place hplace => ?_⟩, hguarantee.grown,
    Nat.le_of_eq Pool.length_resume.symm, fun place outcome hdone => ?_⟩
  · rw [Pool.length_resume] at hplace
    by_cases hne : place = answered
    · -- there is no such operation
      subst hne
      have hsame : pool.resume place answers = pool := by
        rw [Pool.resume, List.getElem?_eq_none hplace]
      rw [hsame]
      exact h.fresh place hplace
    · exact (h.fresh place hplace).apart (hguarantee.apart place hne)
  · obtain ⟨hended, hsame⟩ := Pool.done_resume hdone answered answers
    refine ⟨hended, fun command hmem => ?_⟩
    by_cases hne : place = answered
    · rwa [hsame hne.symm] at hmem
    · exact (hguarantee.apart place hne).entries _ hmem rfl

end NoticeSystem

end Threadwire
