import Mathlib.Algebra.GroupWithZero.Nat
import Mathlib.Data.List.Basic
import Threadwire.Controller.TurnQueueInvariant

/-!
# The law of the turn queue

No entry is stranded: `rank` counts the turns (microtasks, and the end of the active operation) after
which a promise is settled at the latest. A turn takes one off, nothing the callers do adds to it,
and there is a turn to take as long as the promise is not settled.
-/

namespace Threadwire

namespace ControllerTurnQueue

variable {α : Type} {s t : ControllerTurnQueue α}

/-! ## The queue waits for a reason -/

/-- Unless a call of `drain` is queued, an entry is pending only behind an active one. -/
def NotStranded (s : ControllerTurnQueue α) : Prop :=
  s.drains = 0 → s.pending = [] ∨ s.active = true

theorem notStranded_drain (s : ControllerTurnQueue α) : NotStranded s.drain := by
  have hdrained := drained_drain s
  generalize s.drain = t at hdrained
  cases hdrained with
  | idle hidle => exact fun _ => hidle.symm
  | rejected id rest hactive hpending haborted => exact fun habsurd => nomatch habsurd
  | started id rest hactive hpending haborted => exact fun _ => .inr rfl

theorem NotStranded.step {input : TurnQueueInput α} (h : NotStranded s)
    (hstep : s.step input = some t) : NotStranded t := by
  cases input with
  | schedule signal =>
    cases hstep
    unfold schedule
    split
    · exact h
    · split
      · exact h
      · -- Every call that adds an entry or frees the queue drains before it is over.
        exact notStranded_drain _
  | abort signal =>
    rw [ControllerTurnQueue.step] at hstep
    split at hstep <;> cases hstep <;> exact h
  | onAbort id =>
    rw [ControllerTurnQueue.step] at hstep
    split at hstep
    · cases hstep
      unfold onAbort
      split
      · exact h
      · exact notStranded_drain _
    · cases hstep
  | drain =>
    rw [ControllerTurnQueue.step] at hstep
    split at hstep <;> cases hstep
    exact notStranded_drain _
  | invoke chain =>
    simp only [ControllerTurnQueue.step] at hstep
    split at hstep <;> cases hstep
    exact h
  | complete chain outcome =>
    simp only [ControllerTurnQueue.step] at hstep
    split at hstep <;> cases hstep
    exact h
  | settle chain =>
    simp only [ControllerTurnQueue.step] at hstep
    split at hstep <;> cases hstep
    exact h
  | finish chain =>
    simp only [ControllerTurnQueue.step] at hstep
    split at hstep <;> cases hstep
    exact notStranded_drain _

theorem Reachable.notStranded {maxOutstandingTurns : ℕ} (h : Reachable maxOutstandingTurns s) :
    NotStranded s := by
  obtain ⟨inputs, hrun⟩ := h
  refine Machine.exec_invariant (fun _ _ _ h hstep => h.step hstep) ?_ hrun
  exact fun _ => .inl rfl

/-! ## Every promise is settled -/

/-- A turn of the event loop: a microtask runs, or the active operation settles. -/
def isTurn : TurnQueueInput α → Bool
  | .schedule _ | .abort _ | .onAbort _ => false
  | _ => true

/-- The turns that are left of a promise chain. -/
def turns : TurnStage α → ℕ
  | .invoking => 4
  | .running => 3
  | .settling _ => 2
  | .finishing => 1

/-- The turns that are left of the queued calls of `drain`, of the active entry, and of the pending
entries up to this one, each of which takes up to four: its promise chain, or the call of `drain`
after its rejection. -/
def cost (s : ControllerTurnQueue α) (id : ℕ) : ℕ :=
  s.drains + (s.chains.map fun c => turns c.2).sum +
    if id ∈ s.pending then 4 * (s.pending.idxOf id + 1) else 0

/-- How many turns there are at most before the promise is settled. -/
def rank (s : ControllerTurnQueue α) (id : ℕ) : ℕ :=
  if s.settlements id = 0 then s.cost id else 0

theorem rank_of_unsettled {id : ℕ} (h : s.settlements id = 0) : s.rank id = s.cost id := if_pos h

theorem rank_of_settled {id : ℕ} (h : s.settlements id ≠ 0) : s.rank id = 0 := if_neg h

/-- A promise stays settled, so ranks are compared by the cost while it is not. -/
theorem rank_le {id n : ℕ} (hcount : s.settlements id ≤ t.settlements id)
    (hcost : s.settlements id = 0 → t.settlements id = 0 → t.cost id ≤ s.cost id - n) :
    t.rank id ≤ s.rank id - n := by
  by_cases hopen : t.settlements id = 0
  · have hbefore : s.settlements id = 0 := by omega
    rw [rank_of_unsettled hopen, rank_of_unsettled hbefore]
    exact hcost hbefore hopen
  · rw [rank_of_settled hopen]
    exact Nat.zero_le _

/-- While no entry is active, a promise that is not settled is that of a pending entry. -/
theorem Sound.mem_pending (h : Sound s) (hactive : s.active = false) {id : ℕ} (hid : id < s.promises)
    (hcount : s.settlements id = 0) : id ∈ s.pending := by
  rcases h.settled id hid with (hmem | ⟨c, hc, -⟩) | hone
  · exact hmem
  · rw [h.chains_nil hactive] at hc
    exact absurd hc List.not_mem_nil
  · rw [hcount] at hone
    cases hone

/-- An element moves up when another one is taken out. -/
theorem idxOf_erase_le (l : List ℕ) {a b : ℕ} (h : a ≠ b) : (l.erase b).idxOf a ≤ l.idxOf a := by
  induction l with
  | nil => exact Nat.le_refl _
  | cons c l ih =>
    by_cases hcb : c = b
    · rw [hcb, List.erase_cons_head, List.idxOf_cons_ne l (Ne.symm h)]
      exact Nat.le_succ _
    · rw [List.erase_cons_tail (by simpa using hcb)]
      by_cases hca : c = a
      · simp [hca]
      · rw [List.idxOf_cons_ne _ hca, List.idxOf_cons_ne _ hca]
        exact Nat.succ_le_succ ih

/-- A call of `drain` does not raise a rank. -/
theorem Sound.rank_drain (h : Sound s) {id : ℕ} (hid : id < s.promises) :
    s.drain.rank id ≤ s.rank id - 0 := by
  have hdrained := drained_drain s
  generalize s.drain = t at hdrained
  cases hdrained with
  | idle _ => exact Nat.le_refl _
  | rejected first rest hactive hpending haborted =>
    refine rank_le ?_ fun hopen hopen' => ?_
    · simp [settlements]
    · have hfirst : id ≠ first := by
        rintro rfl
        have hsettled := settlements_settled s id (.error (.ofCode .operationAborted))
        exact absurd (hsettled.symm.trans hopen') (Nat.succ_ne_zero _)
      -- The entry still waits, and one place nearer to the front.
      have hmem := h.mem_pending hactive hid hopen
      have hrest : id ∈ rest := List.mem_of_ne_of_mem hfirst (hpending ▸ hmem)
      have hmem' : id ∈ first :: rest := List.mem_cons_of_mem first hrest
      simp only [cost, hpending, if_pos hmem', if_pos hrest, List.idxOf_cons_ne _ (Ne.symm hfirst)]
      omega
  | started first rest hactive hpending haborted =>
    refine rank_le ?_ fun hopen hopen' => ?_
    · simp [settlements]
    · have hmem := h.mem_pending hactive hid hopen
      -- The entry itself is started now, or it waits behind the one that is.
      by_cases hfirst : id = first
      · subst hfirst
        have hnodup := hpending ▸ h.nodup
        simp [cost, hpending, h.chains_nil hactive, (List.nodup_cons.mp hnodup).1, turns]
      · have hrest : id ∈ rest := List.mem_of_ne_of_mem hfirst (hpending ▸ hmem)
        have hmem' : id ∈ first :: rest := List.mem_cons_of_mem first hrest
        simp only [cost, hpending, if_pos hmem', if_pos hrest, h.chains_nil hactive,
          List.idxOf_cons_ne _ (Ne.symm hfirst), List.nil_append, List.map_cons, List.map_nil,
          List.sum_cons, List.sum_nil, turns]
        omega

/-- The promise chain of the active entry takes a turn. -/
theorem rank_advance {id c : ℕ} {stage stage' : TurnStage α} {e : TurnQueueEvent α}
    (hchains : s.chains = [(c, stage)]) (hturn : turns stage' + 1 = turns stage) :
    rank { s with chains := [(c, stage')], log := s.log ++ [e] } id ≤ s.rank id - 1 := by
  refine rank_le ?_ fun _ _ => ?_
  · simp [settlements]
  · simp only [cost, hchains, List.map_cons, List.map_nil, List.sum_cons, List.sum_nil]
    omega

/-- The step lemma of the rank: a turn takes one off, and no other input adds to it. -/
theorem Sound.rank_step (h : Sound s) {input : TurnQueueInput α} (hstep : s.step input = some t)
    {id : ℕ} (hid : id < s.promises) :
    t.rank id ≤ s.rank id - if isTurn input then 1 else 0 := by
  cases input with
  | schedule signal =>
    cases hstep
    have hne : id ≠ s.promises := Nat.ne_of_lt hid
    unfold schedule
    split
    · -- Refused: the queue is as it was.
      exact rank_le (by simp [settlements]) fun _ _ => Nat.le_refl _
    · next hcapacity =>
        split
        · refine rank_le ?_ fun _ _ => Nat.le_refl _
          simp [settlements, rejectAborted, ControllerTurnQueue.settle, enroll]
        · -- Enrolled: the new entry stands behind `id`, so it does not move back.
          have hdrain := (h.enqueue signal (Nat.lt_of_not_le hcapacity)).rank_drain
            (Nat.lt_succ_of_lt hid)
          refine Nat.le_trans hdrain (rank_le ?_ fun hopen _ => ?_)
          · simp [settlements, enroll]
          · simp only [cost, enroll, List.mem_append, List.mem_singleton, hne, or_false]
            split
            · next hmem =>
                rw [List.idxOf_append_of_mem hmem]
                exact Nat.le_refl _
            · exact Nat.le_refl _
  | abort signal =>
    rw [ControllerTurnQueue.step] at hstep
    split at hstep
    · cases hstep
      exact Nat.le_refl _
    · cases hstep
      exact rank_le (by simp [settlements]) fun _ _ => Nat.le_refl _
  | onAbort listener =>
    rw [ControllerTurnQueue.step] at hstep
    split at hstep
    · next hregistered =>
        cases hstep
        rw [Bool.and_eq_true] at hregistered
        have hmem := h.listening listener hregistered.1
        have hwaiting : ¬ (s.entries listener).started = true := by simp [h.waiting listener hmem]
        -- The listener takes its entry out of the queue, and `drain` goes on with the rest.
        rw [onAbort, if_neg hwaiting]
        have hrejected := h.reject hmem hregistered.2 (s.entries listener).started s.drains
        refine Nat.le_trans (hrejected.rank_drain hid) (rank_le ?_ fun hopen hopen' => ?_)
        · simp [settlements]
        · have hne : id ≠ listener := by
            rintro rfl
            have hsettled := settlements_settled s id (.error (.ofCode .operationAborted))
            exact absurd (hsettled.symm.trans hopen') (Nat.succ_ne_zero _)
          have hindex := idxOf_erase_le s.pending hne
          simp only [cost, isTurn, Bool.false_eq_true, if_false, h.mem_erase, ne_eq, hne,
            not_false_eq_true, true_and]
          split <;> omega
    · cases hstep
  | drain =>
    rw [ControllerTurnQueue.step] at hstep
    split at hstep
    · cases hstep
    · next hdrains =>
        cases hstep
        have hsound : Sound { s with drains := s.drains - 1 } := { h with }
        refine Nat.le_trans (hsound.rank_drain hid) (rank_le (Nat.le_refl _) fun _ _ => ?_)
        simp only [cost, isTurn, if_true]
        omega
  | invoke chain =>
    simp only [ControllerTurnQueue.step] at hstep
    split at hstep
    · next c hat =>
        cases hstep
        obtain ⟨rfl, hchains⟩ := h.chain_at hat
        rw [hchains]
        exact rank_advance hchains rfl
    · cases hstep
  | complete chain outcome =>
    simp only [ControllerTurnQueue.step] at hstep
    split at hstep
    · next c hat =>
        cases hstep
        obtain ⟨rfl, hchains⟩ := h.chain_at hat
        rw [hchains]
        exact rank_advance hchains rfl
    · cases hstep
  | settle chain =>
    simp only [ControllerTurnQueue.step] at hstep
    split at hstep
    · next c outcome hat =>
        cases hstep
        obtain ⟨rfl, hchains⟩ := h.chain_at hat
        rw [hchains]
        exact rank_advance hchains rfl
    · cases hstep
  | finish chain =>
    simp only [ControllerTurnQueue.step] at hstep
    split at hstep
    · next c hat =>
        cases hstep
        obtain ⟨rfl, hchains⟩ := h.chain_at hat
        rw [hchains]
        refine Nat.le_trans ((h.finish hchains).rank_drain hid) (rank_le (Nat.le_refl _) fun _ _ => ?_)
        simp only [cost, hchains, isTurn, if_true, List.map_cons, List.map_nil, List.sum_cons,
          List.sum_nil, turns]
        omega
    · cases hstep

/-- The capacity stays as it is, and a promise that was returned stays returned. -/
structure Grows (s t : ControllerTurnQueue α) : Prop where
  capacity : t.maxOutstandingTurns = s.maxOutstandingTurns
  promises : s.promises ≤ t.promises

theorem Grows.refl (s : ControllerTurnQueue α) : Grows s s := ⟨rfl, Nat.le_refl _⟩

theorem Grows.drain (h : Grows s t) : Grows s t.drain := by
  have hdrained := drained_drain t
  generalize t.drain = u at hdrained
  cases hdrained <;> exact ⟨h.capacity, h.promises⟩

theorem grows_step {input : TurnQueueInput α} (hstep : s.step input = some t) : Grows s t := by
  cases input with
  | schedule signal =>
    cases hstep
    unfold schedule
    split
    · exact ⟨rfl, Nat.le_refl _⟩
    · split
      · exact ⟨rfl, Nat.le_succ _⟩
      · exact Grows.drain ⟨rfl, Nat.le_succ _⟩
  | abort signal =>
    rw [ControllerTurnQueue.step] at hstep
    split at hstep <;> cases hstep <;> exact ⟨rfl, Nat.le_refl _⟩
  | onAbort id =>
    rw [ControllerTurnQueue.step] at hstep
    split at hstep
    · cases hstep
      unfold onAbort
      split
      · exact .refl s
      · exact Grows.drain ⟨rfl, Nat.le_refl _⟩
    · cases hstep
  | drain =>
    rw [ControllerTurnQueue.step] at hstep
    split at hstep <;> cases hstep
    exact Grows.drain ⟨rfl, Nat.le_refl _⟩
  -- The chain moves on; no promise is made.
  | invoke chain | complete chain outcome | settle chain =>
    simp only [ControllerTurnQueue.step] at hstep
    split at hstep <;> cases hstep
    exact ⟨rfl, Nat.le_refl _⟩
  | finish chain =>
    simp only [ControllerTurnQueue.step] at hstep
    split at hstep <;> cases hstep
    exact Grows.drain ⟨rfl, Nat.le_refl _⟩

theorem Reachable.capacity {maxOutstandingTurns : ℕ} (h : Reachable maxOutstandingTurns s) :
    s.maxOutstandingTurns = maxOutstandingTurns := by
  obtain ⟨inputs, hrun⟩ := h
  exact Machine.exec_invariant (fun _ _ _ h hstep => (grows_step hstep).capacity.trans h) rfl hrun

/-- The run lemma of the rank. -/
theorem Sound.rank_run (h : Sound s) {inputs : List (TurnQueueInput α)}
    (hrun : Machine.exec ControllerTurnQueue.step s inputs = some t) {id : ℕ} (hid : id < s.promises) :
    Sound t ∧ id < t.promises ∧ t.rank id ≤ s.rank id - inputs.countP isTurn := by
  induction inputs generalizing s with
  | nil =>
    cases hrun
    exact ⟨h, hid, Nat.le_refl _⟩
  | cons input inputs ih =>
    obtain ⟨s', hstep, hrest⟩ := Machine.exec_cons_eq_some.mp hrun
    have hrank := h.rank_step hstep hid
    obtain ⟨hsound, hid', hrank'⟩ :=
      ih (h.step hstep) hrest (Nat.lt_of_lt_of_le hid (grows_step hstep).promises)
    refine ⟨hsound, hid', ?_⟩
    rw [List.countP_cons]
    omega

/-- A promise that is not settled has a turn left. -/
theorem Sound.rank_pos (h : Sound s) {id : ℕ} (hid : id < s.promises)
    (hopen : s.settlements id = 0) : 0 < s.rank id := by
  rw [rank_of_unsettled hopen, cost]
  rcases h.settled id hid with (hmem | ⟨c, hc, -⟩) | hone
  · rw [if_pos hmem]
    omega
  · rcases h.single with ⟨-, hnil⟩ | ⟨c', -, hone⟩
    · rw [hnil] at hc
      exact absurd hc List.not_mem_nil
    · have hpos : 0 < turns c'.2 := by cases c'.2 <;> exact Nat.succ_pos _
      simp only [hone, List.map_cons, List.map_nil, List.sum_cons, List.sum_nil]
      omega
  · rw [hopen] at hone
    cases hone

/-- While a promise is not settled there is a turn to take. -/
theorem Sound.turn_available (h : Sound s) (hstranded : NotStranded s) {id : ℕ}
    (hid : id < s.promises) (hopen : s.settlements id = 0) :
    ∃ turn, isTurn turn = true ∧ (s.step turn).isSome = true := by
  by_cases hdrains : s.drains = 0
  · rcases h.single with ⟨hactive, hnil⟩ | ⟨c, -, hone⟩
    · rcases hstranded hdrains with hpending | habsurd
      · have hmem := h.mem_pending hactive hid hopen
        rw [hpending] at hmem
        exact absurd hmem List.not_mem_nil
      · rw [hactive] at habsurd
        cases habsurd
    · obtain ⟨c, stage⟩ := c
      cases stage with
      | invoking => exact ⟨.invoke 0, rfl, by simp [ControllerTurnQueue.step, hone]⟩
      | running =>
        exact ⟨.complete 0 (.error (.ofCode .operationAborted)), rfl,
          by simp [ControllerTurnQueue.step, hone]⟩
      | settling outcome => exact ⟨.settle 0, rfl, by simp [ControllerTurnQueue.step, hone]⟩
      | finishing => exact ⟨.finish 0, rfl, by simp [ControllerTurnQueue.step, hone]⟩
  · exact ⟨.drain, rfl, by simp [ControllerTurnQueue.step, hdrains]⟩

/-! ## The law -/

/-- What holds of every queue at every point of a run, and what a step from there does. -/
structure TurnQueueLaw (maxOutstandingTurns : ℕ) (s : ControllerTurnQueue α) : Prop where
  capacity : s.pending.length + s.chains.length ≤ maxOutstandingTurns
  single : s.chains.length ≤ 1 ∧ (s.active = true ↔ s.chains.length = 1)
  in_order : ∀ past id future, s.log = past ++ .started id :: future →
    (∀ earlier, .started earlier ∈ past → earlier < id) ∧
      ∀ earlier signal, earlier < id → .scheduled earlier signal ∈ past →
        .started earlier ∈ past ∨ ∃ sig ∈ signal, .aborted sig ∈ past
  aborted_before_start : ∀ past signal future id, s.log = past ++ .aborted signal :: future →
    .scheduled id (some signal) ∈ s.log → .started id ∉ past → .invoked id ∉ s.log
  settled_once : ∀ id, s.settlements id ≤ 1
  settles : ∀ id < s.promises, ∀ inputs t, Machine.exec step s inputs = some t →
    s.rank id ≤ inputs.countP isTurn → t.settlements id = 1
  turn_available : ∀ id < s.promises, s.settlements id = 0 →
    ∃ turn, isTurn turn = true ∧ (s.step turn).isSome = true
  outcome : ∀ id outcome, .settled id outcome ∈ s.log → .completed id outcome ∈ s.log ∨
    outcome = .error (.ofCode .operationAborted) ∧
      ∃ sig, .scheduled id (some sig) ∈ s.log ∧ .aborted sig ∈ s.log
  refused : ∀ signal, (s.outstanding ≥ s.maxOutstandingTurns →
      s.schedule signal = { s with log := s.log ++ [.refused] }) ∧
    (s.outstanding < s.maxOutstandingTurns → .scheduled s.promises signal ∈ (s.schedule signal).log)
  not_stranded : s.drains = 0 → s.pending = [] ∨ s.active = true

theorem mem_log_drain {e : TurnQueueEvent α} (h : e ∈ s.log) : e ∈ s.drain.log := by
  have hdrained := drained_drain s
  generalize s.drain = t at hdrained
  cases hdrained with
  | idle _ => exact h
  | rejected id rest hactive hpending haborted => exact List.mem_append_left _ h
  | started id rest hactive hpending haborted => exact List.mem_append_left _ h

/-- An operation whose signal aborted before its entry started is never called. -/
theorem Sound.not_invoked (h : Sound s) {past future : List (TurnQueueEvent α)} {signal : SignalId}
    {id : ℕ} (hlog : s.log = past ++ .aborted signal :: future)
    (hscheduled : .scheduled id (some signal) ∈ s.log) (hpast : .started id ∉ past) :
    .invoked id ∉ s.log := by
  intro hinvoked
  obtain ⟨before, after, hsplit⟩ := List.append_of_mem hinvoked
  have hstarted : .started id ∈ s.log :=
    hsplit ▸ List.mem_append_left _ (h.lawful before _ after hsplit).1
  rw [hlog] at hstarted
  rcases List.mem_append.mp hstarted with habsurd | hfuture
  · exact hpast habsurd
  · -- The start comes after the abort, which the law of starts excludes.
    have hne : TurnQueueEvent.started (α := α) id ≠ .aborted signal := nofun
    obtain ⟨between, rest, rfl⟩ := List.append_of_mem (List.mem_of_ne_of_mem hne hfuture)
    have hlaw := h.lawful (past ++ .aborted signal :: between) (.started id) rest (by simp [hlog])
    obtain ⟨signal', hmem, hnot⟩ := hlaw.1
    have hmem' : .scheduled id signal' ∈ s.log := by
      rw [hlog, ← List.cons_append, ← List.append_assoc]
      exact List.mem_append_left _ hmem
    have hsame := ((h.scheduled id _).mp hmem').2.symm.trans ((h.scheduled id _).mp hscheduled).2
    exact hnot signal hsame (List.mem_append_right _ List.mem_cons_self)

theorem Sound.settlements_le_one (h : Sound s) (id : ℕ) : s.settlements id ≤ 1 := by
  by_cases hid : id < s.promises
  · rcases h.settled id hid with hopen | hone
    · rw [h.unsettled id hopen]
      exact Nat.zero_le 1
    · exact Nat.le_of_eq hone
  · rw [h.unused id (Nat.le_of_not_lt hid)]
    exact Nat.zero_le 1

/-- The queue obeys its law at every point of every run. -/
theorem turn_queue_law {maxOutstandingTurns : ℕ} (h : Reachable maxOutstandingTurns s) :
    TurnQueueLaw maxOutstandingTurns s := by
  have hsound := h.sound
  constructor
  case capacity =>
    have hcapacity := hsound.capacity
    rw [h.capacity, outstanding] at hcapacity
    rcases hsound.single with ⟨hactive, hnil⟩ | ⟨c, hactive, hone⟩
    · simpa [hactive, hnil] using hcapacity
    · simpa [hactive, hone] using hcapacity
  case single =>
    rcases hsound.single with ⟨hactive, hnil⟩ | ⟨c, hactive, hone⟩
    · simp [hactive, hnil]
    · simp [hactive, hone]
  case in_order =>
    intro past id future hlog
    exact (hsound.lawful past _ future hlog).2
  case aborted_before_start =>
    exact fun past signal future id hlog hscheduled hpast => hsound.not_invoked hlog hscheduled hpast
  case settled_once => exact hsound.settlements_le_one
  case settles =>
    intro id hid inputs t hrun hturns
    -- The rank of an open entry is positive, and the turns of the run have used it up.
    obtain ⟨hsound', hid', hrank⟩ := hsound.rank_run hrun hid
    by_contra hopen
    have hzero : t.settlements id = 0 := by
      have hone := hsound'.settlements_le_one id
      omega
    have hpos := hsound'.rank_pos hid' hzero
    omega
  case turn_available => exact fun id hid hopen => hsound.turn_available h.notStranded hid hopen
  case outcome =>
    intro id outcome hsettled
    obtain ⟨past, future, hsplit⟩ := List.append_of_mem hsettled
    have hmem : ∀ {e}, e ∈ past → e ∈ s.log := fun he => hsplit ▸ List.mem_append_left _ he
    refine (hsound.lawful past _ future hsplit).imp hmem ?_
    rintro ⟨herror, -, sig, hscheduled, haborted⟩
    exact ⟨herror, sig, hmem hscheduled, hmem haborted⟩
  case refused =>
    intro signal
    -- Within the capacity a call is enrolled, whatever becomes of it then.
    refine ⟨fun hfull => if_pos hfull, fun hfree => ?_⟩
    rw [schedule, if_neg (Nat.not_le_of_lt hfree)]
    split
    · exact List.mem_append_left _ (List.mem_append_right _ List.mem_cons_self)
    · exact mem_log_drain (List.mem_append_right _ List.mem_cons_self)
  case not_stranded => exact h.notStranded

/-- Of two entries with one signal that are scheduled while another is active, the abort rejects
both. -/
theorem turn_queue_law_aborted :
    ∃ s : ControllerTurnQueue Unit, Reachable 3 s ∧ s.pending = [] ∧ s.settlements 1 = 1 ∧
      s.settlements 2 = 1 ∧ TurnQueueLaw 3 s := by
  have hreachable : Reachable (α := Unit) 3 _ :=
    ⟨[.schedule none, .schedule (some 0), .schedule (some 0), .invoke 0, .abort 0, .onAbort 1,
      .complete 0 (.ok ()), .settle 0, .finish 0], rfl⟩
  exact ⟨_, hreachable, rfl, rfl, rfl, turn_queue_law hreachable⟩

end ControllerTurnQueue

end Threadwire
