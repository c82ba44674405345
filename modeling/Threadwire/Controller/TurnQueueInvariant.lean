import Mathlib.Data.List.Pairwise
import Threadwire.Controller.ControllerTurnQueue

/-!
# What every reachable queue is like

`Law` says when an event may follow the events before it. `Sound` says what the pending entries, the
promise chain of the active one and the log have to do with each other. Every step keeps both.
-/

namespace Threadwire

/-- Whether the entry's promise is still to be settled. -/
def TurnStage.isUnsettled {α : Type} : TurnStage α → Bool
  | .finishing => false
  | _ => true

namespace ControllerTurnQueue

variable {α : Type} {s t : ControllerTurnQueue α}

/-- The event settles the promise. -/
def isSettled (id : ℕ) : TurnQueueEvent α → Bool
  | .settled id' _ => id' == id
  | _ => false

/-- How often the promise of an entry has been settled. -/
def settlements (s : ControllerTurnQueue α) (id : ℕ) : ℕ := s.log.countP (isSettled id)

/-- The entry is pending, or active with its promise not settled yet. -/
def Unsettled (s : ControllerTurnQueue α) (id : ℕ) : Prop :=
  id ∈ s.pending ∨ ∃ c ∈ s.chains, c.1 = id ∧ c.2.isUnsettled = true

/-- When an event may happen: an entry starts after all earlier entries that have not been aborted,
and only before its signal aborts; its operation is called once, after the start; and its promise is
settled with the outcome of its operation, or rejected because its signal aborted before it
started. -/
def Law (past : List (TurnQueueEvent α)) : TurnQueueEvent α → Prop
  | .started id =>
    (∃ signal, .scheduled id signal ∈ past ∧ ∀ sig ∈ signal, .aborted sig ∉ past) ∧
      (∀ earlier, .started earlier ∈ past → earlier < id) ∧
      ∀ earlier signal, earlier < id → .scheduled earlier signal ∈ past →
        .started earlier ∈ past ∨ ∃ sig ∈ signal, .aborted sig ∈ past
  | .invoked id => .started id ∈ past ∧ .invoked id ∉ past
  | .completed id _ => .invoked id ∈ past
  | .settled id outcome => .completed id outcome ∈ past ∨
      outcome = .error (.ofCode .operationAborted) ∧ .started id ∉ past ∧
        ∃ sig, .scheduled id (some sig) ∈ past ∧ .aborted sig ∈ past
  | _ => True

/-- What the log says about the stage of a promise chain. -/
def AtStage (log : List (TurnQueueEvent α)) (id : ℕ) : TurnStage α → Prop
  | .invoking => .invoked id ∉ log
  | .running => .invoked id ∈ log
  | .settling outcome => .completed id outcome ∈ log
  | .finishing => True

/-- The pending entries are in the order of their promises, have not started, and are the only ones
that listen to their signals. -/
structure Queued (pending : List ℕ) (entries : ℕ → PendingTurn) (promises : ℕ) : Prop where
  sorted : pending.Pairwise (· < ·)
  issued : ∀ id ∈ pending, id < promises
  waiting : ∀ id ∈ pending, (entries id).started = false
  listening : ∀ id, (entries id).onAbort = true → id ∈ pending

/-- The invariant of the queue. -/
structure Sound (s : ControllerTurnQueue α) : Prop extends Queued s.pending s.entries s.promises where
  single : (s.active = false ∧ s.chains = []) ∨ ∃ c, s.active = true ∧ s.chains = [c]
  capacity : s.outstanding ≤ s.maxOutstandingTurns
  chained : ∀ c ∈ s.chains, .started c.1 ∈ s.log ∧ AtStage s.log c.1 c.2
  overtaken : ∀ id, .started id ∈ s.log → id < s.promises ∧ ∀ j ∈ s.pending, id < j
  passed : ∀ id < s.promises,
    id ∈ s.pending ∨ .started id ∈ s.log ∨ s.isAborted (s.entries id).signal = true
  unsettled : ∀ id, s.Unsettled id → s.settlements id = 0
  settled : ∀ id < s.promises, s.Unsettled id ∨ s.settlements id = 1
  unused : ∀ id, s.promises ≤ id → s.settlements id = 0
  scheduled : ∀ id signal,
    .scheduled id signal ∈ s.log ↔ id < s.promises ∧ (s.entries id).signal = signal
  aborts : ∀ signal, .aborted signal ∈ s.log ↔ s.aborted signal = true
  lawful : Trace.Lawful Law s.log

/-! ## What one call of `drain` can do -/

/-- A call of `drain` finds nothing to do, or rejects the first pending entry because its signal has
aborted, or starts it. -/
inductive Drained (s : ControllerTurnQueue α) : ControllerTurnQueue α → Prop
  | idle (hidle : s.active = true ∨ s.pending = []) : Drained s s
  | rejected (id : ℕ) (rest : List ℕ) (hactive : s.active = false) (hpending : s.pending = id :: rest)
    (haborted : s.isAborted (s.entries id).signal = true) :
    Drained s { s with
      pending := rest
      entries := Function.update s.entries id { s.entries id with started := true, onAbort := false }
      log := s.log ++ [.settled id (.error (.ofCode .operationAborted))]
      drains := s.drains + 1 }
  | started (id : ℕ) (rest : List ℕ) (hactive : s.active = false) (hpending : s.pending = id :: rest)
    (haborted : s.isAborted (s.entries id).signal = false) :
    Drained s { s with
      pending := rest
      entries := Function.update s.entries id { s.entries id with started := true, onAbort := false }
      active := true
      chains := s.chains ++ [(id, .invoking)]
      log := s.log ++ [.started id] }

theorem drained_drain (s : ControllerTurnQueue α) : Drained s s.drain := by
  unfold drain
  split
  · next hactive => exact .idle (.inl hactive)
  next hactive =>
  rw [Bool.not_eq_true] at hactive
  split
  · next hpending => exact .idle (.inr hpending)
  next id rest hpending =>
  dsimp only
  split
  · next haborted => exact .rejected id rest hactive hpending haborted
  · next haborted => exact .started id rest hactive hpending (Bool.eq_false_iff.mpr haborted)

/-! ## Reading the invariant -/

theorem isAborted_iff {signal : Option SignalId} :
    s.isAborted signal = true ↔ ∃ sig ∈ signal, s.aborted sig = true := by
  simp [isAborted, Option.any_eq_true]

theorem settlements_settled (s : ControllerTurnQueue α) (id : ℕ) (outcome : Except ThrownError α) :
    (s.settle id outcome).settlements id = s.settlements id + 1 := by
  simp [settlements, settle, isSettled]

theorem settlements_of_ne {id j : ℕ} (h : j ≠ id) (s : ControllerTurnQueue α)
    (outcome : Except ThrownError α) :
    (s.settle id outcome).settlements j = s.settlements j := by
  simp [settlements, settle, isSettled, Ne.symm h]

/-- Other events settle no promise. -/
theorem settlements_snoc {e : TurnQueueEvent α} (h : ∀ id, isSettled id e = false) (id : ℕ) :
    (s.log ++ [e]).countP (isSettled id) = s.settlements id := by
  simp [settlements, h]

/-- The calls of operations aside, events do not change what the log says about a stage. -/
theorem AtStage.snoc {log : List (TurnQueueEvent α)} {id : ℕ} {stage : TurnStage α}
    {e : TurnQueueEvent α} (h : AtStage log id stage) (he : e ≠ .invoked id) :
    AtStage (log ++ [e]) id stage := by
  cases stage with
  | invoking =>
    intro habsurd
    rcases List.mem_append.mp habsurd with habsurd | habsurd
    · exact h habsurd
    · exact he (List.mem_singleton.mp habsurd).symm
  | running => exact List.mem_append_left _ h
  | settling outcome => exact List.mem_append_left _ h
  | finishing => trivial

/-- Starting or unregistering an entry leaves its signal as it is. -/
theorem signal_update (entries : ℕ → PendingTurn) (id : ℕ) (started onAbort : Bool) (j : ℕ) :
    (Function.update entries id { entries id with started, onAbort } j).signal =
      (entries j).signal := by
  by_cases h : j = id
  · subst h
    rw [Function.update_self]
  · rw [Function.update_of_ne h]

section Queued

variable {pending : List ℕ} {entries : ℕ → PendingTurn} {promises : ℕ}

theorem Queued.nodup (h : Queued pending entries promises) : pending.Nodup :=
  h.sorted.imp Nat.ne_of_lt

theorem Queued.mem_erase (h : Queued pending entries promises) {id j : ℕ} :
    j ∈ pending.erase id ↔ j ≠ id ∧ j ∈ pending :=
  h.nodup.mem_erase_iff

/-- An entry that is taken out of the queue stops to listen. -/
theorem Queued.erase (h : Queued pending entries promises) (id : ℕ) (started : Bool) :
    Queued (pending.erase id)
      (Function.update entries id { entries id with started, onAbort := false }) promises where
  sorted := h.sorted.sublist List.erase_sublist
  issued j hj := h.issued j (List.mem_of_mem_erase hj)
  waiting j hj := by
    obtain ⟨hne, hmem⟩ := h.mem_erase.mp hj
    rw [Function.update_of_ne hne]
    exact h.waiting j hmem
  listening j hj := by
    by_cases hne : j = id
    · simp [hne] at hj
    · rw [Function.update_of_ne hne] at hj
      exact h.mem_erase.mpr ⟨hne, h.listening j hj⟩

end Queued

namespace Sound

theorem not_started (h : Sound s) {id : ℕ} (hmem : id ∈ s.pending) : .started id ∉ s.log :=
  fun hstarted => Nat.lt_irrefl id ((h.overtaken id hstarted).2 id hmem)

theorem chains_nil (h : Sound s) (hactive : s.active = false) : s.chains = [] := by
  rcases h.single with ⟨-, hchains⟩ | ⟨c, habsurd, -⟩
  · exact hchains
  · rw [hactive] at habsurd
    cases habsurd

/-- The log has the abort of every signal that a scheduled entry was aborted by. -/
theorem logged_abort (h : Sound s) {id : ℕ} (hid : id < s.promises)
    (haborted : s.isAborted (s.entries id).signal = true) :
    ∃ sig, .scheduled id (some sig) ∈ s.log ∧ .aborted sig ∈ s.log := by
  obtain ⟨sig, hsignal, haborted⟩ := isAborted_iff.mp haborted
  exact ⟨sig, (h.scheduled id (some sig)).mpr ⟨hid, hsignal⟩, (h.aborts sig).mpr haborted⟩

/-- Only entries before the pending ones have a promise chain. -/
theorem chain_ne (h : Sound s) {id : ℕ} (hmem : id ∈ s.pending) :
    ∀ c ∈ s.chains, c.1 ≠ id := by
  rintro c hc rfl
  exact h.not_started hmem (h.chained c hc).1

/-! ## Every step keeps the invariant -/

/-- A pending entry whose signal has aborted is rejected, by `drain` or by its abort listener. -/
theorem reject (h : Sound s) {id : ℕ} (hmem : id ∈ s.pending)
    (haborted : s.isAborted (s.entries id).signal = true) (started : Bool) (drains : ℕ) :
    Sound { s with
      pending := s.pending.erase id
      entries := Function.update s.entries id { s.entries id with started, onAbort := false }
      log := s.log ++ [.settled id (.error (.ofCode .operationAborted))]
      drains } where
  toQueued := h.toQueued.erase id started
  single := h.single
  -- One entry less is outstanding.
  capacity := by
    have hcapacity := h.capacity
    have hlength := List.length_erase_of_mem hmem
    simp only [outstanding] at hcapacity ⊢
    omega
  chained c hc := by
    obtain ⟨hstarted, hstage⟩ := h.chained c hc
    exact ⟨List.mem_append_left _ hstarted, hstage.snoc nofun⟩
  overtaken j hj := by
    have hbefore := h.overtaken j (by simpa using hj)
    exact ⟨hbefore.1, fun k hk => hbefore.2 k (List.mem_of_mem_erase hk)⟩
  passed j hj := by
    rw [signal_update]
    by_cases hne : j = id
    · exact .inr (.inr (hne ▸ haborted))
    · refine (h.passed j hj).imp (fun hpend => ?_) (.imp_left fun hstarted => ?_)
      · exact h.mem_erase.mpr ⟨hne, hpend⟩
      · exact List.mem_append_left _ hstarted
  unsettled j hj := by
    -- The entry is not the active one, so the others keep their settlements.
    have hne : j ≠ id := by
      rintro rfl
      rcases hj with hj | ⟨c, hc, hid, -⟩
      · exact (h.mem_erase.mp hj).1 rfl
      · exact h.chain_ne hmem c hc hid
    refine (settlements_of_ne hne s _).trans (h.unsettled j (hj.imp_left ?_))
    exact List.mem_of_mem_erase
  settled j hj := by
    by_cases hne : j = id
    · subst hne
      have hbefore := h.unsettled j (.inl hmem)
      exact .inr ((settlements_settled s j _).trans (by rw [hbefore]))
    · refine (h.settled j hj).imp (.imp_left fun hpend => ?_) fun hcount => ?_
      · exact h.mem_erase.mpr ⟨hne, hpend⟩
      · exact (settlements_of_ne hne s _).trans hcount
  unused j hj := by
    have hne : j ≠ id := Nat.ne_of_gt (Nat.lt_of_lt_of_le (h.issued id hmem) hj)
    exact (settlements_of_ne hne s _).trans (h.unused j hj)
  scheduled j signal := by
    rw [signal_update]
    simpa using h.scheduled j signal
  aborts := by simpa using h.aborts
  lawful := by
    refine Trace.lawful_snoc.mpr ⟨h.lawful, .inr ⟨rfl, h.not_started hmem, ?_⟩⟩
    exact h.logged_abort (h.issued id hmem) haborted

/-- An entry whose signal has not aborted starts when it is the first one and none is active. -/
theorem start (h : Sound s) {id : ℕ} {rest : List ℕ} (hactive : s.active = false)
    (hpending : s.pending = id :: rest) (haborted : s.isAborted (s.entries id).signal = false) :
    Sound { s with
      pending := s.pending.erase id
      entries := Function.update s.entries id { s.entries id with started := true, onAbort := false }
      active := true
      chains := s.chains ++ [(id, .invoking)]
      log := s.log ++ [.started id] } where
  toQueued := h.toQueued.erase id true
  single := .inr ⟨_, rfl, by rw [h.chains_nil hactive, List.nil_append]⟩
  capacity := by
    have hcapacity := h.capacity
    simp only [outstanding, hpending, hactive] at hcapacity ⊢
    simpa using hcapacity
  chained := by
    have hinvoked : .invoked id ∉ s.log := by
      intro hinvoked
      obtain ⟨past, future, hsplit⟩ := List.append_of_mem hinvoked
      have hstarted := (h.lawful past _ future hsplit).1
      exact h.not_started (hpending ▸ List.mem_cons_self) (hsplit ▸ List.mem_append_left _ hstarted)
    simp [h.chains_nil hactive, AtStage, hinvoked]
  overtaken j hj := by
    rcases List.mem_append.mp hj with hj | hj
    · have hbefore := h.overtaken j hj
      exact ⟨hbefore.1, fun k hk => hbefore.2 k (List.mem_of_mem_erase hk)⟩
    · cases List.mem_singleton.mp hj
      refine ⟨h.issued id (hpending ▸ List.mem_cons_self), ?_⟩
      have hsorted := hpending ▸ h.sorted
      simpa [hpending] using (List.pairwise_cons.mp hsorted).1
  passed j hj := by
    rw [signal_update]
    by_cases hne : j = id
    · exact .inr (.inl (hne ▸ List.mem_append_right _ List.mem_cons_self))
    · refine (h.passed j hj).imp (fun hpend => ?_) (.imp_left fun hstarted => ?_)
      · exact h.mem_erase.mpr ⟨hne, hpend⟩
      · exact List.mem_append_left _ hstarted
  unsettled j hj := by
    refine (settlements_snoc (fun _ => rfl) j).trans (h.unsettled j ?_)
    rcases hj with hj | ⟨c, hc, hid, hopen⟩
    · exact .inl (List.mem_of_mem_erase hj)
    · rw [h.chains_nil hactive] at hc
      cases List.mem_singleton.mp hc
      exact .inl (hid ▸ hpending ▸ List.mem_cons_self)
  settled j hj := by
    by_cases hne : j = id
    · exact .inl (.inr ⟨(id, .invoking), List.mem_append_right _ List.mem_cons_self, hne.symm, rfl⟩)
    · refine (h.settled j hj).imp (.imp (fun hpend => ?_) ?_) (settlements_snoc (fun _ => rfl) j).trans
      · exact h.mem_erase.mpr ⟨hne, hpend⟩
      · exact fun ⟨c, hc, hopen⟩ => ⟨c, List.mem_append_left _ hc, hopen⟩
  unused j hj := (settlements_snoc (fun _ => rfl) j).trans (h.unused j hj)
  scheduled j signal := by
    rw [signal_update]
    simpa using h.scheduled j signal
  aborts := by simpa using h.aborts
  lawful := by
    have hmem : id ∈ s.pending := hpending ▸ List.mem_cons_self
    refine Trace.lawful_snoc.mpr ⟨h.lawful, ⟨(s.entries id).signal, ?_, ?_⟩, ?_, ?_⟩
    · exact (h.scheduled id _).mpr ⟨h.issued id hmem, rfl⟩
    · intro sig hsig habsurd
      rw [Bool.eq_false_iff] at haborted
      exact haborted (isAborted_iff.mpr ⟨sig, hsig, (h.aborts sig).mp habsurd⟩)
    · exact fun earlier hstarted => (h.overtaken earlier hstarted).2 id hmem
    · -- An earlier entry is not pending, since the pending entries are in order.
      intro earlier signal hlt hscheduled
      obtain ⟨hissued, rfl⟩ := (h.scheduled earlier signal).mp hscheduled
      rcases h.passed earlier hissued with hpend | hstarted | haborted
      · have hsorted := hpending ▸ h.sorted
        rw [hpending] at hpend
        rcases List.mem_cons.mp hpend with rfl | hpend
        · exact absurd hlt (Nat.lt_irrefl _)
        · exact absurd ((List.pairwise_cons.mp hsorted).1 earlier hpend) (Nat.lt_asymm hlt)
      · exact .inl hstarted
      · obtain ⟨sig, hsig, haborted⟩ := isAborted_iff.mp haborted
        exact .inr ⟨sig, hsig, (h.aborts sig).mpr haborted⟩

theorem drain (h : Sound s) : Sound s.drain := by
  have hdrained := drained_drain s
  generalize s.drain = t at hdrained
  cases hdrained with
  | idle _ => exact h
  | rejected id rest hactive hpending haborted =>
    have hrest : rest = s.pending.erase id := by rw [hpending, List.erase_cons_head]
    rw [hrest]
    exact h.reject (hpending ▸ List.mem_cons_self) haborted true (s.drains + 1)
  | started id rest hactive hpending haborted =>
    have hrest : rest = s.pending.erase id := by rw [hpending, List.erase_cons_head]
    rw [hrest]
    exact h.start hactive hpending haborted

theorem refuse (h : Sound s) : Sound { s with log := s.log ++ [.refused] } :=
  { h with
    chained c hc :=
      ⟨List.mem_append_left _ (h.chained c hc).1, (h.chained c hc).2.snoc nofun⟩
    overtaken j hj := h.overtaken j (by simpa using hj)
    passed j hj := (h.passed j hj).imp_right (.imp_left (List.mem_append_left _))
    unsettled j hj := (settlements_snoc (fun _ => rfl) j).trans (h.unsettled j hj)
    settled j hj := (h.settled j hj).imp_right (settlements_snoc (fun _ => rfl) j).trans
    unused j hj := (settlements_snoc (fun _ => rfl) j).trans (h.unused j hj)
    scheduled := by simpa using h.scheduled
    aborts := by simpa using h.aborts
    lawful := Trace.lawful_snoc.mpr ⟨h.lawful, trivial⟩ }

theorem abort (h : Sound s) (signal : SignalId) :
    Sound { s with
      aborted := Function.update s.aborted signal true, log := s.log ++ [.aborted signal] } :=
  { h with
    chained c hc :=
      ⟨List.mem_append_left _ (h.chained c hc).1, (h.chained c hc).2.snoc nofun⟩
    overtaken j hj := h.overtaken j (by simpa using hj)
    passed j hj := by
      refine (h.passed j hj).imp_right (.imp (List.mem_append_left _) fun haborted => ?_)
      obtain ⟨sig, hsig, haborted⟩ := isAborted_iff.mp haborted
      refine isAborted_iff.mpr ⟨sig, hsig, ?_⟩
      by_cases hne : sig = signal
      · simp [hne]
      · exact (Function.update_of_ne hne _ _).trans haborted
    unsettled j hj := (settlements_snoc (fun _ => rfl) j).trans (h.unsettled j hj)
    settled j hj := (h.settled j hj).imp_right (settlements_snoc (fun _ => rfl) j).trans
    unused j hj := (settlements_snoc (fun _ => rfl) j).trans (h.unused j hj)
    scheduled := by simpa using h.scheduled
    aborts sig := by
      have haborts := h.aborts sig
      by_cases hne : sig = signal
      · simp [hne]
      · simpa [Function.update_of_ne hne, hne] using haborts
    lawful := Trace.lawful_snoc.mpr ⟨h.lawful, trivial⟩ }

/-- The promise of a new entry, which is not settled. -/
theorem scheduled_enroll (h : Sound s) (signal : Option SignalId) (onAbort : Bool) (id : ℕ)
    (signal' : Option SignalId) :
    .scheduled id signal' ∈ (s.enroll signal onAbort).log ↔
      id < s.promises + 1 ∧ ((s.enroll signal onAbort).entries id).signal = signal' := by
  have hbefore := h.scheduled id signal'
  by_cases hid : id = s.promises
  · subst hid
    have hnot : .scheduled s.promises signal' ∉ s.log :=
      fun hmem => Nat.lt_irrefl _ (hbefore.mp hmem).1
    simp [enroll, hnot, eq_comm]
  · have hlt : id < s.promises + 1 ↔ id < s.promises := by omega
    simpa [enroll, hid, Function.update_of_ne hid, hlt] using hbefore

/-- An entry that is scheduled with an aborted signal is rejected at once. -/
theorem enrollRejected (h : Sound s) {signal : Option SignalId}
    (haborted : s.isAborted signal = true) :
    Sound ((s.enroll signal false).rejectAborted s.promises) := by
  have hnew : ∀ {j}, j ∈ s.pending → j ≠ s.promises := fun hj => Nat.ne_of_lt (h.issued _ hj)
  obtain ⟨sig, hsig, haborted⟩ := isAborted_iff.mp haborted
  have hstarted : ∀ {id}, .started id ∈ ((s.enroll signal false).rejectAborted s.promises).log →
      .started id ∈ s.log := by
    intro id hid
    simpa [enroll, rejectAborted, ControllerTurnQueue.settle] using hid
  constructor
  case toQueued =>
    refine ⟨h.sorted, fun j hj => Nat.lt_succ_of_lt (h.issued j hj), fun j hj => ?_, fun j hj => ?_⟩
    · exact (congrArg PendingTurn.started (Function.update_of_ne (hnew hj) _ _)).trans (h.waiting j hj)
    · by_cases hne : j = s.promises
      · simp [enroll, rejectAborted, ControllerTurnQueue.settle, hne] at hj
      · exact h.listening j
          ((congrArg PendingTurn.onAbort (Function.update_of_ne hne _ _)).symm.trans hj)
  case single => exact h.single
  case capacity => exact h.capacity
  case chained =>
    intro c hc
    obtain ⟨hstarted, hstage⟩ := h.chained c hc
    refine ⟨List.mem_append_left _ (List.mem_append_left _ hstarted), ?_⟩
    refine AtStage.snoc (AtStage.snoc hstage ?_) ?_
    · exact nofun
    · exact nofun
  case overtaken =>
    intro j hj
    have hbefore := h.overtaken j (hstarted hj)
    exact ⟨Nat.lt_succ_of_lt hbefore.1, hbefore.2⟩
  case passed =>
    intro j hj
    by_cases hne : j = s.promises
    · refine .inr (.inr (isAborted_iff.mpr ⟨sig, ?_, haborted⟩))
      simpa [enroll, rejectAborted, ControllerTurnQueue.settle, hne] using hsig
    · have hlt : j < s.promises := by
        have hj' : j < s.promises + 1 := hj
        omega
      refine (h.passed j hlt).imp_right (.imp (fun hmem => ?_) fun haborted => ?_)
      · exact List.mem_append_left _ (List.mem_append_left _ hmem)
      · exact (congrArg s.isAborted
          (congrArg PendingTurn.signal (Function.update_of_ne hne _ _))).trans haborted
  case unsettled =>
    intro j hj
    have hne : j ≠ s.promises := by
      rcases hj with hj | ⟨c, hc, rfl, -⟩
      · exact hnew hj
      · exact Nat.ne_of_lt (h.overtaken _ (h.chained c hc).1).1
    refine (settlements_of_ne hne _ _).trans ?_
    exact (settlements_snoc (fun _ => rfl) j).trans (h.unsettled j hj)
  case settled =>
    intro j hj
    -- The new entry was enrolled and rejected at once: it has its one settlement.
    by_cases hne : j = s.promises
    · subst hne
      refine .inr ((settlements_settled _ _ _).trans ?_)
      have hcount : (s.enroll signal false).settlements s.promises = 0 :=
        (settlements_snoc (fun _ => rfl) _).trans (h.unused _ (Nat.le_refl _))
      rw [hcount]
    · have hlt : j < s.promises := by
        have hj' : j < s.promises + 1 := hj
        omega
      refine (h.settled j hlt).imp_right fun hcount => ?_
      exact (settlements_of_ne hne _ _).trans ((settlements_snoc (fun _ => rfl) j).trans hcount)
  case unused =>
    intro j hj
    have hj' : s.promises + 1 ≤ j := hj
    refine (settlements_of_ne (by omega) _ _).trans ?_
    exact (settlements_snoc (fun _ => rfl) j).trans (h.unused j (by omega))
  case scheduled =>
    intro id signal'
    refine Iff.trans ?_ (h.scheduled_enroll signal false id signal')
    simp [rejectAborted, ControllerTurnQueue.settle]
  case aborts =>
    simpa [enroll, rejectAborted, ControllerTurnQueue.settle] using h.aborts
  case lawful =>
    refine Trace.lawful_snoc.mpr ⟨Trace.lawful_snoc.mpr ⟨h.lawful, trivial⟩, ?_⟩
    -- It was never started, and its signal had aborted.
    refine .inr ⟨rfl, ?_, sig, ?_, ?_⟩
    · intro habsurd
      have hmem : .started s.promises ∈ s.log := by simpa [enroll] using habsurd
      exact Nat.lt_irrefl _ (h.overtaken _ hmem).1
    · rw [← Option.mem_def.mp hsig]
      exact List.mem_append_right _ List.mem_cons_self
    · exact List.mem_append_left _ ((h.aborts sig).mpr haborted)

/-- A new entry joins the queue where there is capacity for it. -/
theorem enqueue (h : Sound s) (signal : Option SignalId)
    (hcapacity : s.outstanding < s.maxOutstandingTurns) :
    Sound { s.enroll signal signal.isSome with pending := s.pending ++ [s.promises] } := by
  have hnew : ∀ {j}, j ∈ s.pending → j ≠ s.promises := fun hj => Nat.ne_of_lt (h.issued _ hj)
  have hlast : s.promises ∈ s.pending ++ [s.promises] := List.mem_append_right _ List.mem_cons_self
  constructor
  case toQueued =>
    refine ⟨?_, fun j hj => ?_, fun j hj => ?_, fun j hj => ?_⟩
    · -- The queue stays in the order of scheduling, since the new entry is the last.
      refine List.pairwise_append.mpr ⟨h.sorted, List.pairwise_singleton _ _, fun j hj k hk => ?_⟩
      rw [List.mem_singleton.mp hk]
      exact h.issued j hj
    · rcases List.mem_append.mp hj with hj | hj
      · exact Nat.lt_succ_of_lt (h.issued j hj)
      · rw [List.mem_singleton.mp hj]
        exact Nat.lt_succ_self _
    · rcases List.mem_append.mp hj with hj | hj
      · exact (congrArg PendingTurn.started (Function.update_of_ne (hnew hj) _ _)).trans
          (h.waiting j hj)
      · simp [List.mem_singleton.mp hj, enroll]
    · by_cases hne : j = s.promises
      · exact hne ▸ hlast
      · refine List.mem_append_left _ (h.listening j ?_)
        exact (congrArg PendingTurn.onAbort (Function.update_of_ne hne _ _)).symm.trans hj
  case single => exact h.single
  case capacity =>
    refine Nat.le_trans (Nat.le_of_eq ?_) (Nat.succ_le_of_lt hcapacity)
    simp only [outstanding, enroll, List.length_append, List.length_singleton]
    exact Nat.add_right_comm _ _ _
  case chained =>
    intro c hc
    exact ⟨List.mem_append_left _ (h.chained c hc).1, (h.chained c hc).2.snoc nofun⟩
  case overtaken =>
    intro j hj
    have hbefore := h.overtaken j (by simpa [enroll] using hj)
    -- Entries that were started are before the new one.
    refine ⟨Nat.lt_succ_of_lt hbefore.1, fun k hk => ?_⟩
    rcases List.mem_append.mp hk with hk | hk
    · exact hbefore.2 k hk
    · rw [List.mem_singleton.mp hk]
      exact hbefore.1
  case passed =>
    intro j hj
    by_cases hne : j = s.promises
    · exact .inl (hne ▸ hlast)
    · have hlt : j < s.promises := by
        have hj' : j < s.promises + 1 := hj
        omega
      refine (h.passed j hlt).imp (List.mem_append_left _) (.imp (List.mem_append_left _) ?_)
      exact fun haborted => (congrArg s.isAborted
        (congrArg PendingTurn.signal (Function.update_of_ne hne _ _))).trans haborted
  case unsettled =>
    intro j hj
    refine (settlements_snoc (fun _ => rfl) j).trans ?_
    rcases hj with hj | hj
    · rcases List.mem_append.mp hj with hj | hj
      · exact h.unsettled j (.inl hj)
      · exact h.unused j (Nat.le_of_eq (List.mem_singleton.mp hj).symm)
    · exact h.unsettled j (.inr hj)
  case settled =>
    intro j hj
    by_cases hne : j = s.promises
    · exact .inl (.inl (hne ▸ hlast))
    · have hlt : j < s.promises := by
        have hj' : j < s.promises + 1 := hj
        omega
      refine (h.settled j hlt).imp (.imp_left (List.mem_append_left _)) ?_
      exact (settlements_snoc (fun _ => rfl) j).trans
  case unused =>
    intro j hj
    exact (settlements_snoc (fun _ => rfl) j).trans (h.unused j (Nat.le_of_succ_le hj))
  case scheduled => exact h.scheduled_enroll signal signal.isSome
  case aborts => simpa [enroll] using h.aborts
  case lawful => exact Trace.lawful_snoc.mpr ⟨h.lawful, trivial⟩

/-- The promise chain of the active entry goes on: its operation is called, or has settled. -/
theorem advance (h : Sound s) {id : ℕ} {stage stage' : TurnStage α} {e : TurnQueueEvent α}
    (hchains : s.chains = [(id, stage)]) (hopen : stage.isUnsettled = true)
    (hopen' : stage'.isUnsettled = true) (hlaw : Law s.log e)
    (hevent : e = .invoked id ∨ ∃ outcome, e = .completed id outcome)
    (hstage : AtStage (s.log ++ [e]) id stage') :
    Sound { s with chains := [(id, stage')], log := s.log ++ [e] } := by
  have hstarted : ∀ j, .started j ∈ s.log ++ [e] ↔ .started j ∈ s.log := by
    -- The event of the stage starts nothing and settles nothing.
    rcases hevent with rfl | ⟨outcome, rfl⟩ <;> simp
  have hcount : ∀ j, (s.log ++ [e]).countP (isSettled j) = s.settlements j := by
    rcases hevent with rfl | ⟨outcome, rfl⟩ <;> exact settlements_snoc fun _ => rfl
  have hunsettled : ∀ j, Unsettled { s with chains := [(id, stage')] } j ↔ s.Unsettled j := by
    intro j
    simp [Unsettled, hchains, hopen, hopen']
  exact { h with
    single := by
      rcases h.single with ⟨-, hnil⟩ | ⟨c, hactive, -⟩
      · rw [hnil] at hchains
        cases hchains
      · exact .inr ⟨_, hactive, rfl⟩
    chained := by
      intro c hc
      cases List.mem_singleton.mp hc
      refine ⟨(hstarted id).mpr (h.chained (id, stage) ?_).1, hstage⟩
      exact hchains ▸ List.mem_cons_self
    overtaken := fun j hj => h.overtaken j ((hstarted j).mp hj)
    passed := fun j hj => (h.passed j hj).imp_right (.imp_left (hstarted j).mpr)
    unsettled := fun j hj => (hcount j).trans (h.unsettled j ((hunsettled j).mp hj))
    settled := fun j hj => (h.settled j hj).imp (hunsettled j).mpr (hcount j).trans
    unused := fun j hj => (hcount j).trans (h.unused j hj)
    scheduled := by
      rcases hevent with rfl | ⟨outcome, rfl⟩ <;> simpa using h.scheduled
    aborts := by
      rcases hevent with rfl | ⟨outcome, rfl⟩ <;> simpa using h.aborts
    lawful := Trace.lawful_snoc.mpr ⟨h.lawful, hlaw⟩ }

/-- The promise of the active entry is settled with the outcome of its operation. -/
theorem settle (h : Sound s) {id : ℕ} {outcome : Except ThrownError α}
    (hchains : s.chains = [(id, .settling outcome)]) :
    Sound { s.settle id outcome with chains := [(id, .finishing)] } := by
  have hchain : (id, .settling outcome) ∈ s.chains := hchains ▸ List.mem_cons_self
  have hstarted := (h.chained _ hchain).1
  exact { h with
    single := by
      rcases h.single with ⟨-, hnil⟩ | ⟨c, hactive, -⟩
      · rw [hnil] at hchains
        cases hchains
      · exact .inr ⟨_, hactive, rfl⟩
    chained := by
      intro c hc
      cases List.mem_singleton.mp hc
      exact ⟨List.mem_append_left _ hstarted, trivial⟩
    overtaken := fun j hj => h.overtaken j (by simpa [ControllerTurnQueue.settle] using hj)
    passed := fun j hj => (h.passed j hj).imp_right (.imp_left (List.mem_append_left _))
    unsettled := by
      rintro j (hj | ⟨c, hc, -, habsurd⟩)
      · -- The entries that wait are not the active one.
        have hne : j ≠ id := fun hid => h.chain_ne hj _ hchain hid.symm
        exact (settlements_of_ne hne s outcome).trans (h.unsettled j (.inl hj))
      · cases List.mem_singleton.mp hc
        cases habsurd
    settled := by
      intro j hj
      by_cases hne : j = id
      · -- The active entry had no settlement, and now has one.
        subst hne
        have hbefore := h.unsettled j (.inr ⟨_, hchain, rfl, rfl⟩)
        exact .inr ((settlements_settled s j outcome).trans (by rw [hbefore]))
      · refine (h.settled j hj).imp ?_ (settlements_of_ne hne s outcome).trans
        rintro (hpend | ⟨c, hc, hid, -⟩)
        · exact .inl hpend
        · rw [hchains] at hc
          cases List.mem_singleton.mp hc
          exact absurd hid.symm hne
    unused := by
      intro j hj
      have hne : j ≠ id := Nat.ne_of_gt (Nat.lt_of_lt_of_le (h.overtaken id hstarted).1 hj)
      exact (settlements_of_ne hne s outcome).trans (h.unused j hj)
    scheduled := by simpa [ControllerTurnQueue.settle] using h.scheduled
    aborts := by simpa [ControllerTurnQueue.settle] using h.aborts
    lawful := Trace.lawful_snoc.mpr ⟨h.lawful, .inl (h.chained _ hchain).2⟩ }

/-- The promise chain of the active entry ends. -/
theorem finish (h : Sound s) {id : ℕ} (hchains : s.chains = [(id, .finishing)]) :
    Sound { s with chains := [], active := false } := by
  have hunsettled : ∀ j, Unsettled { s with chains := [], active := false } j ↔ s.Unsettled j := by
    intro j
    simp [Unsettled, hchains, TurnStage.isUnsettled]
  exact { h with
    single := .inl ⟨rfl, rfl⟩
    capacity := Nat.le_trans (Nat.le_add_right _ _) h.capacity
    chained := fun c hc => absurd hc List.not_mem_nil
    unsettled := fun j hj => h.unsettled j ((hunsettled j).mp hj)
    settled := fun j hj => (h.settled j hj).imp_left (hunsettled j).mpr }

/-- A position of the promise chains is that of the only one. -/
theorem chain_at (h : Sound s) {chain : ℕ} {c : ℕ × TurnStage α} (hat : s.chains[chain]? = some c) :
    chain = 0 ∧ s.chains = [c] := by
  rcases h.single with ⟨-, hnil⟩ | ⟨c', -, hone⟩
  · simp [hnil] at hat
  · rw [hone] at hat ⊢
    cases chain with
    | zero =>
      cases hat
      exact ⟨rfl, rfl⟩
    | succ chain => simp at hat

/-- The step lemma. -/
theorem step (h : Sound s) {input : TurnQueueInput α} (hstep : s.step input = some t) : Sound t := by
  cases input with
  | schedule signal =>
    cases hstep
    unfold schedule
    split
    · -- There is no capacity: only the refusal is logged.
      exact h.refuse
    · next hcapacity =>
        split
        · -- The signal had aborted already.
          next haborted => exact h.enrollRejected haborted
        · exact (h.enqueue signal (Nat.lt_of_not_le hcapacity)).drain
  | abort signal =>
    rw [ControllerTurnQueue.step] at hstep
    split at hstep
    · cases hstep
      exact h
    · cases hstep
      exact h.abort signal
  | onAbort id =>
    rw [ControllerTurnQueue.step] at hstep
    split at hstep
    · next hregistered =>
        cases hstep
        rw [Bool.and_eq_true] at hregistered
        have hmem := h.listening id hregistered.1
        have hwaiting : ¬ (s.entries id).started = true := by simp [h.waiting id hmem]
        rw [ControllerTurnQueue.onAbort, if_neg hwaiting]
        exact (h.reject hmem hregistered.2 (s.entries id).started s.drains).drain
    · cases hstep
  | drain =>
    rw [ControllerTurnQueue.step] at hstep
    split at hstep
    · cases hstep
    · cases hstep
      -- The listeners of started entries were taken off, so this entry still waits.
      exact drain { h with }
  | invoke chain =>
    simp only [ControllerTurnQueue.step] at hstep
    split at hstep
    · next id hat =>
        cases hstep
        obtain ⟨rfl, hchains⟩ := h.chain_at hat
        have hchain := h.chained (id, .invoking) (hchains ▸ List.mem_cons_self)
        rw [hchains]
        exact h.advance hchains rfl rfl hchain (.inl rfl) (List.mem_append_right _ List.mem_cons_self)
    · cases hstep
  | complete chain outcome =>
    simp only [ControllerTurnQueue.step] at hstep
    split at hstep
    · next id hat =>
        cases hstep
        obtain ⟨rfl, hchains⟩ := h.chain_at hat
        have hchain := h.chained (id, .running) (hchains ▸ List.mem_cons_self)
        rw [hchains]
        exact h.advance hchains rfl rfl hchain.2 (.inr ⟨outcome, rfl⟩)
          (List.mem_append_right _ List.mem_cons_self)
    · cases hstep
  | settle chain =>
    simp only [ControllerTurnQueue.step] at hstep
    split at hstep
    · next id outcome hat =>
        cases hstep
        obtain ⟨rfl, hchains⟩ := h.chain_at hat
        rw [hchains]
        exact h.settle hchains
    · cases hstep
  | finish chain =>
    simp only [ControllerTurnQueue.step] at hstep
    split at hstep
    · next id hat =>
        cases hstep
        obtain ⟨rfl, hchains⟩ := h.chain_at hat
        rw [hchains]
        exact (h.finish hchains).drain
    · cases hstep

end Sound

theorem sound_init (maxOutstandingTurns : ℕ) : Sound (α := α) { maxOutstandingTurns } where
  sorted := .nil
  issued := nofun
  waiting := nofun
  listening := nofun
  single := .inl ⟨rfl, rfl⟩
  capacity := Nat.zero_le _
  chained := nofun
  overtaken := nofun
  passed := nofun
  unsettled _ _ := rfl
  settled := nofun
  unused _ _ := rfl
  scheduled := by simp
  aborts := by simp
  lawful := Trace.lawful_nil

/-- The run lemma. -/
theorem Reachable.sound {maxOutstandingTurns : ℕ} (h : Reachable maxOutstandingTurns s) : Sound s := by
  obtain ⟨inputs, hrun⟩ := h
  exact Machine.exec_invariant (fun _ _ _ hsound hstep => hsound.step hstep)
    (sound_init maxOutstandingTurns) hrun

end ControllerTurnQueue

end Threadwire
