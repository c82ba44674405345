import Mathlib.Data.List.TakeWhile
import Threadwire.Cdp.NavigationSettlement

/-!
# Navigation settlement is order-independent

What the two listeners keep is a function of the events since `Page.navigate` was initiated and of
the frame that it returned, whichever came first (`Tracks`). So the call returns only after both
events, none of them is lost, and each way out disposes of what was subscribed.
-/

namespace Threadwire

/-! ## Since the initiation -/

/-- Whether the entry is the initiation of `Page.navigate`. -/
def NavigationEntry.isInitiated : NavigationEntry → Bool
  | .initiated _ => true
  | _ => false

/-- Whether the entry is the processing of an answer of `Page.navigate`. -/
def NavigationEntry.isNavigated : NavigationEntry → Bool
  | .navigated _ => true
  | _ => false

/-- Whether the call has ended. -/
def NavigationEntry.isExit : NavigationEntry → Bool
  | .returned | .threw _ => true
  | _ => false

/-- The entries since `Page.navigate` was initiated. -/
def sinceInitiation (log : List NavigationEntry) : List NavigationEntry :=
  (log.dropWhile fun entry => !entry.isInitiated).tail

/-- Since `Page.navigate` was initiated, the load event was fired, and the frame that it returned
has stopped loading. -/
def Settles (log : List NavigationEntry) : Prop :=
  .occurred .loadEventFired ∈ sinceInitiation log ∧
    ∃ result frameId, .navigated result ∈ sinceInitiation log ∧ result.frameId = some frameId ∧
      .occurred (.frameStoppedLoading (some frameId)) ∈ sinceInitiation log

/-- A frame tree that was requested after the settlement had the expected route. -/
def Confirmed (settings : NavigationSettings) (log : List NavigationEntry) : Prop :=
  ∃ before during after frameUrl,
    log = before ++ .frameTreeRequested :: (during ++ .frameTreeRead frameUrl :: after) ∧
      Settles before ∧ (∀ entry ∈ during, ∃ event, entry = .occurred event) ∧
      routeMatchesExpected settings.platform frameUrl settings.expectedRoute = true

section SinceInitiation

variable {log : List NavigationEntry}

/-- What comes after the initiation came since. -/
theorem sinceInitiation_append (h : log.any NavigationEntry.isInitiated = true)
    (entries : List NavigationEntry) :
    sinceInitiation (log ++ entries) = sinceInitiation log ++ entries := by
  induction log with
  | nil => simp at h
  | cons entry log ih =>
    cases hentry : entry.isInitiated with
    | true => simp [sinceInitiation, hentry]
    | false =>
      rw [List.any_cons, hentry, Bool.false_or] at h
      have hskip : ∀ rest, sinceInitiation (entry :: rest) = sinceInitiation rest := by
        intro rest
        simp [sinceInitiation, hentry]
      rw [List.cons_append, hskip, hskip]
      exact ih h

/-- Nothing was initiated here. -/
theorem not_isInitiated (h : log.any NavigationEntry.isInitiated = false) :
    ∀ entry ∈ log, entry.isInitiated = false := by
  intro entry hmem
  simpa using List.any_eq_false.mp h entry hmem

/-- Nor counted. -/
theorem countP_isInitiated (h : log.any NavigationEntry.isInitiated = false) :
    log.countP NavigationEntry.isInitiated = 0 :=
  List.countP_eq_zero.mpr fun entry hmem => Bool.eq_false_iff.mp (not_isInitiated h entry hmem)

/-- There is no since. -/
theorem sinceInitiation_eq_nil (h : log.any NavigationEntry.isInitiated = false) :
    sinceInitiation log = [] := by
  have hall : ∀ entry ∈ log, (!entry.isInitiated) = true := by
    intro entry hmem
    rw [not_isInitiated h entry hmem]
    rfl
  rw [sinceInitiation, List.dropWhile_eq_nil_iff.mpr hall, List.tail_nil]

/-- The initiation starts a new one. -/
theorem sinceInitiation_initiated (h : log.any NavigationEntry.isInitiated = false) (url : String) :
    sinceInitiation (log ++ [.initiated url]) = [] := by
  have hall : ∀ entry ∈ log, (!entry.isInitiated) = true := by
    intro entry hmem
    rw [not_isInitiated h entry hmem]
    rfl
  rw [sinceInitiation, List.dropWhile_append_of_pos hall]
  rfl

/-- Without an initiation nothing settles. -/
theorem not_settles (h : log.any NavigationEntry.isInitiated = false) : ¬ Settles log := by
  intro hsettles
  exact List.not_mem_nil (sinceInitiation_eq_nil h ▸ hsettles.1)

/-- What has settled is settled. -/
theorem Settles.append (h : Settles log) (entries : List NavigationEntry) :
    Settles (log ++ entries) := by
  have hany : log.any NavigationEntry.isInitiated = true :=
    Bool.not_eq_false _ ▸ fun hnone => not_settles hnone h
  obtain ⟨hload, result, frameId, hresult, hframe, hstopped⟩ := h
  refine ⟨?_, result, frameId, ?_, hframe, ?_⟩ <;> rw [sinceInitiation_append hany]
  · exact List.mem_append_left _ hload
  · exact List.mem_append_left _ hresult
  · exact List.mem_append_left _ hstopped

/-- And what was confirmed is confirmed. -/
theorem Confirmed.append {settings : NavigationSettings} (h : Confirmed settings log)
    (entries : List NavigationEntry) : Confirmed settings (log ++ entries) := by
  obtain ⟨before, during, after, frameUrl, rfl, hrest⟩ := h
  exact ⟨before, during, after ++ entries, frameUrl, by simp, hrest⟩

end SinceInitiation

/-! ## What the listeners keep -/

/-- The settlement is what the events since the initiation make of it. -/
structure Tracks (s : Settlement) (log : List NavigationEntry) : Prop where
  navigationInitiated : s.navigationInitiated = true
  initiated : log.countP NavigationEntry.isInitiated = 1
  loadEventFired : s.loadEventFired = true ↔ .occurred .loadEventFired ∈ sinceInitiation log
  stoppedFrameIds : s.targetFrameId = none → ∀ frameId, frameId ∈ s.stoppedFrameIds ↔
    .occurred (.frameStoppedLoading (some frameId)) ∈ sinceInitiation log
  targetFrameId : ∀ frameId, s.targetFrameId = some frameId ↔
    ∃ result, .navigated result ∈ sinceInitiation log ∧ result.frameId = some frameId
  matchingFrameStopped : s.matchingFrameStopped = true ↔ ∃ frameId, s.targetFrameId = some frameId ∧
    .occurred (.frameStoppedLoading (some frameId)) ∈ sinceInitiation log

section Tracks

variable {s : Settlement} {log : List NavigationEntry}

theorem Tracks.any (h : Tracks s log) : log.any NavigationEntry.isInitiated = true := by
  have hpos : 0 < log.countP NavigationEntry.isInitiated := h.initiated ▸ Nat.one_pos
  obtain ⟨entry, hmem, hentry⟩ := List.countP_pos_iff.mp hpos
  exact List.any_eq_true.mpr ⟨entry, hmem, hentry⟩

/-- An entry joins those since the initiation. -/
theorem Tracks.mem_snoc (h : Tracks s log) {entry other : NavigationEntry} :
    entry ∈ sinceInitiation (log ++ [other]) ↔ entry ∈ sinceInitiation log ∨ entry = other := by
  rw [sinceInitiation_append h.any, List.mem_append, List.mem_singleton]

/-- The flags hold exactly when the log settles. -/
theorem Tracks.settles_iff (h : Tracks s log) :
    (s.loadEventFired && s.matchingFrameStopped) = true ↔ Settles log := by
  rw [Bool.and_eq_true, h.loadEventFired, h.matchingFrameStopped]
  constructor
  · rintro ⟨hload, frameId, htarget, hstopped⟩
    obtain ⟨result, hresult, hframe⟩ := (h.targetFrameId frameId).mp htarget
    exact ⟨hload, result, frameId, hresult, hframe, hstopped⟩
  · rintro ⟨hload, result, frameId, hresult, hframe, hstopped⟩
    exact ⟨hload, frameId, (h.targetFrameId frameId).mpr ⟨result, hresult, hframe⟩, hstopped⟩

/-- The initiation starts the count. -/
theorem tracks_initiated (h : log.any NavigationEntry.isInitiated = false) (url : String) :
    Tracks { navigationInitiated := true } (log ++ [.initiated url]) := by
  have hsince := sinceInitiation_initiated h url
  have hcount := countP_isInitiated h
  constructor
  case navigationInitiated => rfl
  case initiated => rw [List.countP_append, hcount]; rfl
  case loadEventFired => simp [hsince]
  case stoppedFrameIds => simp [hsince]
  case targetFrameId => simp [hsince]
  case matchingFrameStopped => simp

/-- Any other entry leaves what is kept as it is. -/
theorem Tracks.snoc (h : Tracks s log) {entry : NavigationEntry}
    (hinitiated : entry.isInitiated = false) (hnavigated : entry.isNavigated = false)
    (hoccurred : ∀ event, entry ≠ .occurred event) : Tracks s (log ++ [entry]) := by
  have hmem : ∀ event, .occurred event ∈ sinceInitiation (log ++ [entry]) ↔
      .occurred event ∈ sinceInitiation log := by
    intro event
    rw [h.mem_snoc]
    exact or_iff_left (Ne.symm (hoccurred event))
  have hresult : ∀ result, .navigated result ∈ sinceInitiation (log ++ [entry]) ↔
      .navigated result ∈ sinceInitiation log := by
    intro result
    rw [h.mem_snoc]
    refine or_iff_left fun habsurd => ?_
    rw [← habsurd] at hnavigated
    cases hnavigated
  constructor
  case navigationInitiated => exact h.navigationInitiated
  case initiated => simp [List.countP_append, h.initiated, hinitiated]
  case loadEventFired => exact h.loadEventFired.trans (hmem _).symm
  case stoppedFrameIds =>
    intro htarget frameId
    exact (h.stoppedFrameIds htarget frameId).trans (hmem _).symm
  case targetFrameId =>
    intro frameId
    simp only [h.targetFrameId frameId, hresult]
  case matchingFrameStopped => simp only [h.matchingFrameStopped, hmem]

/-- The listeners keep track of a load event. -/
theorem Tracks.observe_loadEventFired (h : Tracks s log) :
    Tracks (s.observe .loadEventFired) (log ++ [.occurred .loadEventFired]) := by
  have hobserve : s.observe .loadEventFired = { s with loadEventFired := true } := by
    simp [Settlement.observe, h.navigationInitiated]
  rw [hobserve]
  constructor
  case navigationInitiated => exact h.navigationInitiated
  case initiated => simp [List.countP_append, h.initiated, NavigationEntry.isInitiated]
  case loadEventFired => simp [h.mem_snoc]
  case stoppedFrameIds => simpa [h.mem_snoc] using h.stoppedFrameIds
  case targetFrameId => simpa [h.mem_snoc] using h.targetFrameId
  case matchingFrameStopped => simpa [h.mem_snoc] using h.matchingFrameStopped

/-- A stop without a frame is nothing to keep track of. -/
theorem Tracks.observe_stopped_none (h : Tracks s log) :
    Tracks (s.observe (.frameStoppedLoading none))
      (log ++ [.occurred (.frameStoppedLoading none)]) := by
  have hobserve : s.observe (.frameStoppedLoading none) = s := by
    simp [Settlement.observe]
  rw [hobserve]
  constructor
  case navigationInitiated => exact h.navigationInitiated
  case initiated => simp [List.countP_append, h.initiated, NavigationEntry.isInitiated]
  case loadEventFired => simpa [h.mem_snoc] using h.loadEventFired
  case stoppedFrameIds => simpa [h.mem_snoc] using h.stoppedFrameIds
  case targetFrameId => simpa [h.mem_snoc] using h.targetFrameId
  case matchingFrameStopped => simpa [h.mem_snoc] using h.matchingFrameStopped

/-- Before the frame to wait for is known, the listeners keep every frame that stops. -/
theorem Tracks.observe_stopped_early (h : Tracks s log) (htarget : s.targetFrameId = none)
    (frameId : String) :
    Tracks (s.observe (.frameStoppedLoading (some frameId)))
      (log ++ [.occurred (.frameStoppedLoading (some frameId))]) := by
  have hobserve : s.observe (.frameStoppedLoading (some frameId)) =
      { s with stoppedFrameIds := s.stoppedFrameIds ++ [frameId] } := by
    simp [Settlement.observe, h.navigationInitiated, htarget]
  rw [hobserve]
  constructor
  case navigationInitiated => exact h.navigationInitiated
  case initiated => simp [List.countP_append, h.initiated, NavigationEntry.isInitiated]
  case loadEventFired => simpa [h.mem_snoc] using h.loadEventFired
  case stoppedFrameIds =>
    intro _ other
    simp [h.mem_snoc, h.stoppedFrameIds htarget]
  case targetFrameId => simpa [h.mem_snoc] using h.targetFrameId
  case matchingFrameStopped => simpa [htarget] using h.matchingFrameStopped

/-- Once it is known, they look for it among the frames that stop. -/
theorem Tracks.observe_stopped_late (h : Tracks s log) {targetFrameId : String}
    (htarget : s.targetFrameId = some targetFrameId) (frameId : String) :
    Tracks (s.observe (.frameStoppedLoading (some frameId)))
      (log ++ [.occurred (.frameStoppedLoading (some frameId))]) := by
  have hobserve : s.observe (.frameStoppedLoading (some frameId)) =
      { s with
        matchingFrameStopped := s.matchingFrameStopped || decide (frameId = targetFrameId) } := by
    have hinitiated := h.navigationInitiated
    by_cases heq : frameId = targetFrameId
    · simp [Settlement.observe, hinitiated, htarget, heq]
    · cases s
      simp_all [Settlement.observe]
  rw [hobserve]
  constructor
  case navigationInitiated => exact h.navigationInitiated
  case initiated => simp [List.countP_append, h.initiated, NavigationEntry.isInitiated]
  case loadEventFired => simpa [h.mem_snoc] using h.loadEventFired
  case stoppedFrameIds => exact fun hnone => nomatch htarget.symm.trans hnone
  case targetFrameId => simpa [h.mem_snoc] using h.targetFrameId
  case matchingFrameStopped =>
    have hmatching := h.matchingFrameStopped
    simp only [htarget, Option.some.injEq, exists_eq_left'] at hmatching
    simp [h.mem_snoc, htarget, hmatching, @eq_comm _ frameId]

/-- The listeners keep track of every event. -/
theorem Tracks.observe (h : Tracks s log) (event : PageEvent) :
    Tracks (s.observe event) (log ++ [.occurred event]) :=
  match event with
  | .loadEventFired => h.observe_loadEventFired
  | .frameStoppedLoading none => h.observe_stopped_none
  | .frameStoppedLoading (some frameId) =>
    match htarget : s.targetFrameId with
    | none => h.observe_stopped_early htarget frameId
    | some _ => h.observe_stopped_late htarget frameId

/-- Before `Page.navigate` is answered, no frame is waited for. -/
theorem Tracks.unanswered (h : Tracks s log) (hnone : ∀ result, .navigated result ∉ log) :
    (∀ result, .navigated result ∉ sinceInitiation log) ∧ s.targetFrameId = none ∧
      s.matchingFrameStopped = false := by
  have hfirst : ∀ result, .navigated result ∉ sinceInitiation log := by
    intro result hmem
    exact hnone result ((List.dropWhile_sublist _).subset (List.mem_of_mem_tail hmem))
  have htarget : s.targetFrameId = none := by
    cases hsome : s.targetFrameId with
    | none => rfl
    | some _ =>
      obtain ⟨result, hmem, -⟩ := (h.targetFrameId _).mp hsome
      exact absurd hmem (hfirst result)
  refine ⟨hfirst, htarget, Bool.eq_false_iff.mpr fun habsurd => ?_⟩
  obtain ⟨frameId, hsome, -⟩ := h.matchingFrameStopped.mp habsurd
  exact nomatch htarget.symm.trans hsome

/-- The frame that `Page.navigate` returned is looked for among those that have stopped. -/
theorem Tracks.target (h : Tracks s log) (hnone : ∀ result, .navigated result ∉ log)
    {result : NavigateResult} {frameId : String} (hframe : result.frameId = some frameId) :
    Tracks
      { s with
        targetFrameId := some frameId
        matchingFrameStopped := s.stoppedFrameIds.contains frameId }
      (log ++ [.navigated result]) := by
  obtain ⟨hfirst, htarget, -⟩ := h.unanswered hnone
  constructor
  case navigationInitiated => exact h.navigationInitiated
  case initiated => simp [List.countP_append, h.initiated, NavigationEntry.isInitiated]
  case loadEventFired => simpa [h.mem_snoc] using h.loadEventFired
  case stoppedFrameIds => exact nofun
  case targetFrameId => simp [h.mem_snoc, hfirst, hframe]
  case matchingFrameStopped => simp [h.mem_snoc, h.stoppedFrameIds htarget]

/-- Without a frame there is nothing to look for. -/
theorem Tracks.no_target (h : Tracks s log) {result : NavigateResult}
    (hframe : result.frameId = none) : Tracks s (log ++ [.navigated result]) := by
  constructor
  case navigationInitiated => exact h.navigationInitiated
  case initiated => simp [List.countP_append, h.initiated, NavigationEntry.isInitiated]
  case loadEventFired => simpa [h.mem_snoc] using h.loadEventFired
  case stoppedFrameIds => simpa [h.mem_snoc] using h.stoppedFrameIds
  case targetFrameId =>
    intro frameId
    simp only [h.mem_snoc, h.targetFrameId, NavigationEntry.navigated.injEq, or_and_right,
      exists_or]
    refine (or_iff_left ?_).symm
    rintro ⟨_, rfl, habsurd⟩
    exact nomatch hframe.symm.trans habsurd
  case matchingFrameStopped => simpa [h.mem_snoc] using h.matchingFrameStopped

end Tracks

namespace NavigationCall

variable {settings : NavigationSettings} {c : NavigationCall}

/-! ## The parts of a call -/

/-- The settlement is resolved as soon as both flags hold. -/
def Prompt (c : NavigationCall) : Prop :=
  c.settlementResolved = (c.settlement.loadEventFired && c.settlement.matchingFrameStopped)

/-- The call with another settlement, resolved promptly. -/
def keeping (c : NavigationCall) (s : Settlement) : NavigationCall :=
  { c with settlement := s, settlementResolved := s.loadEventFired && s.matchingFrameStopped }

/-- The call with that settlement is prompt. -/
theorem prompt_keeping (c : NavigationCall) (s : Settlement) : (c.keeping s).Prompt := rfl

/-- With its own settlement it is the same. -/
theorem keeping_self (h : c.Prompt) : c.keeping c.settlement = c := by
  rw [keeping, ← h]

/-- After flags were set, `checkSettlement` is all that is needed. -/
theorem checkSettlement_eq (h : c.Prompt) {s : Settlement}
    (hload : c.settlement.loadEventFired = true → s.loadEventFired = true)
    (hstopped : c.settlement.matchingFrameStopped = true → s.matchingFrameStopped = true) :
    checkSettlement { c with settlement := s } = c.keeping s := by
  rw [checkSettlement, keeping]
  split
  · next hflags => rw [hflags]
  · next hflags =>
    have hresolved : c.settlementResolved = false := by
      rw [h, Bool.and_eq_false_iff]
      rw [Bool.and_eq_true, not_and_or, Bool.not_eq_true, Bool.not_eq_true] at hflags
      refine hflags.imp (fun hs => ?_) fun hs => ?_
      · exact Bool.eq_false_iff.mpr fun habsurd => nomatch hs.symm.trans (hload habsurd)
      · exact Bool.eq_false_iff.mpr fun habsurd => nomatch hs.symm.trans (hstopped habsurd)
    rw [Bool.eq_false_iff.mpr hflags, ← hresolved]

/-- The load event, of a prompt call. -/
theorem onLoadEventFired_eq (h : c.Prompt) :
    c.onLoadEventFired = c.keeping (c.settlement.observe .loadEventFired) := by
  rw [onLoadEventFired, Settlement.observe]
  split
  · exact (keeping_self h).symm
  · exact checkSettlement_eq h (fun _ => rfl) id

/-- A stopped frame, of a prompt call. -/
theorem onFrameStoppedLoading_eq (h : c.Prompt) (frameId : Option String) :
    c.onFrameStoppedLoading frameId =
      c.keeping (c.settlement.observe (.frameStoppedLoading frameId)) := by
  rw [onFrameStoppedLoading.eq_def, Settlement.observe.eq_def]
  split
  · exact (keeping_self h).symm
  · cases frameId with
    | none => exact (keeping_self h).symm
    | some frameId =>
      cases htarget : c.settlement.targetFrameId with
      | some targetFrameId =>
        dsimp only
        by_cases heq : frameId = targetFrameId
        · rw [if_pos heq, if_pos heq, ← htarget]
          exact checkSettlement_eq h (s := { c.settlement with matchingFrameStopped := true })
            id fun _ => rfl
        · rw [if_neg heq, if_neg heq]
          exact (keeping_self h).symm
      | none =>
        -- The stop is only kept: neither flag has changed.
        dsimp only
        rw [keeping, ← h, ← htarget]

/-- The listeners keep what `Settlement.observe` keeps, and resolve the settlement promptly. -/
theorem occur_eq (h : c.Prompt) (event : PageEvent) :
    c.occur event = (c.record (.occurred event)).keeping
      (if event.listener ∈ c.listening then c.settlement.observe event else c.settlement) := by
  have hrecord : (c.record (.occurred event)).Prompt := h
  by_cases hlistening : event.listener ∈ c.listening
  · rw [occur.eq_def, if_pos hlistening]
    refine (if_pos hlistening).trans ?_
    cases event with
    | loadEventFired => exact onLoadEventFired_eq hrecord
    | frameStoppedLoading frameId => exact onFrameStoppedLoading_eq hrecord frameId
  · rw [occur.eq_def, if_neg hlistening]
    exact (if_neg hlistening).trans (keeping_self hrecord).symm

/-- Taking over the frame sets the flag if the frame has stopped already. -/
theorem target_eq (h : c.Prompt) (hflag : c.settlement.matchingFrameStopped = false)
    (frameId : String) : c.target (some frameId) = c.keeping
      { c.settlement with
        targetFrameId := some frameId
        matchingFrameStopped := c.settlement.stoppedFrameIds.contains frameId } := by
  rw [target.eq_def]
  dsimp only
  split
  · next hcontains =>
    rw [hcontains]
    exact checkSettlement_eq (c := c) h id fun _ => rfl
  · next hcontains =>
    rw [Bool.eq_false_iff.mpr hcontains, keeping, ← hflag, ← h]

/-- A subscription is kept for disposal if it can be disposed of. -/
theorem subscribe_eq (listener : PageListener) :
    c.subscribe settings listener =
      { c with
        log := c.log ++ [.subscribed listener]
        listening := c.listening ++ [listener]
        unsubscribers := c.unsubscribers ++ [listener].filter settings.disposes } := by
  rw [subscribe.eq_def]
  cases hdisposes : settings.disposes listener with
  | false => simp [hdisposes, record]
  | true => simp [hdisposes, record]

/-- How an outcome ends the log. -/
def exitEntry : Except ThrownError Unit → NavigationEntry
  | .ok () => .returned
  | .error error => .threw error

/-- The subscriptions are disposed of one by one. -/
theorem foldl_dispose (listeners : List PageListener) :
    listeners.foldl dispose c =
      { c with
        log := c.log ++ listeners.map .disposed
        listening := listeners.foldl List.erase c.listening } := by
  induction listeners generalizing c with
  | nil => simp
  | cons listener listeners ih =>
    rw [List.foldl_cons, ih]
    simp [dispose, record]

/-- The `finally` disposes of each subscription that it was given a function for. -/
theorem finish_eq (outcome : Except ThrownError Unit) :
    c.finish outcome =
      { c with
        phase := .ended
        log := c.log ++ c.unsubscribers.map .disposed ++ [exitEntry outcome]
        listening := c.unsubscribers.foldl List.erase c.listening } := by
  rw [finish, foldl_dispose]
  cases outcome <;> rfl

/-! ## The stages of a call -/

/-- Whether the entry is about the subscriptions or the end of the call. -/
def isManaging : NavigationEntry → Bool
  | .subscribed _ | .disposed _ | .returned | .threw _ => true
  | _ => false

/-- Both subscriptions are in place, and the call is to dispose of them. -/
structure Listening (settings : NavigationSettings) (c : NavigationCall) : Prop where
  listening : ∀ listener, listener ∈ c.listening
  unsubscribers :
    c.unsubscribers = [PageListener.loadEventFired, .frameStoppedLoading].filter settings.disposes
  subscribed : ∀ listener, c.log.count (.subscribed listener) = 1
  disposed : ∀ listener, c.log.count (.disposed listener) = 0
  running : ∀ entry ∈ c.log, entry.isExit = false

/-- `Page.navigate` has not been initiated, and nothing has been counted. -/
structure Preparing (c : NavigationCall) : Prop where
  settlement : c.settlement = {}
  initiated : c.log.any NavigationEntry.isInitiated = false
  navigated : ∀ result, .navigated result ∉ c.log

/-- The frame tree was requested after the settlement, and only events have occurred since. -/
def Requested (c : NavigationCall) : Prop :=
  ∃ before during, c.log = before ++ .frameTreeRequested :: during ∧ Settles before ∧
    ∀ entry ∈ during, ∃ event, entry = .occurred event

/-- What an ended call leaves. -/
structure Ended (settings : NavigationSettings) (c : NavigationCall) : Prop where
  initiated : c.log.countP NavigationEntry.isInitiated ≤ 1
  subscribed : ∀ listener, c.log.count (.subscribed listener) ≤ 1
  disposed_le : ∀ listener,
    c.log.count (.disposed listener) ≤ c.log.count (.subscribed listener)
  disposed : ∀ listener, settings.disposes listener = true →
    c.log.count (.disposed listener) = c.log.count (.subscribed listener)
  returned : .returned ∈ c.log → Confirmed settings c.log

/-- What holds of a call, by what it awaits. -/
inductive Sound (settings : NavigationSettings) (c : NavigationCall) : Prop where
  | idle (hphase : c.phase = .idle) (hnone : c.listening = [] ∧ c.unsubscribers = [])
      (hlog : ∀ entry ∈ c.log, ∃ event, entry = .occurred event) (hsettlement : c.settlement = {})
  | enabling (hphase : c.phase = .enabling) (hlistening : Listening settings c)
      (hpreparing : Preparing c)
  | navigating (hphase : c.phase = .navigating) (hlistening : Listening settings c)
      (htracks : Tracks c.settlement c.log) (hnone : ∀ result, .navigated result ∉ c.log)
  | waiting (hphase : c.phase = .waiting) (hlistening : Listening settings c)
      (htracks : Tracks c.settlement c.log)
  | reading (hphase : c.phase = .reading) (hlistening : Listening settings c)
      (htracks : Tracks c.settlement c.log) (hrequested : Requested c)
  | pausing (hphase : c.phase = .pausing) (hlistening : Listening settings c)
      (htracks : Tracks c.settlement c.log) (hsettles : Settles c.log)
  | ended (hphase : c.phase = .ended) (hended : Ended settings c)

/-- Entries that are not about the subscriptions leave them in place. -/
theorem Listening.append (h : Listening settings c) {c' : NavigationCall}
    {entries : List NavigationEntry} (hlistening : c'.listening = c.listening)
    (hunsubscribers : c'.unsubscribers = c.unsubscribers) (hlog : c'.log = c.log ++ entries)
    (hentries : ∀ entry ∈ entries, isManaging entry = false) : Listening settings c' := by
  have hnone : ∀ entry, isManaging entry = true → entries.count entry = 0 := by
    intro entry hentry
    refine List.count_eq_zero.mpr fun hmem => ?_
    exact nomatch hentry.symm.trans (hentries entry hmem)
  constructor
  case listening =>
    rw [hlistening]
    exact h.listening
  case unsubscribers => exact hunsubscribers.trans h.unsubscribers
  case subscribed =>
    intro listener
    rw [hlog, List.count_append, h.subscribed, hnone _ rfl]
  case disposed =>
    intro listener
    rw [hlog, List.count_append, h.disposed, hnone _ rfl]
  case running =>
    intro entry hmem
    rw [hlog] at hmem
    rcases List.mem_append.mp hmem with hmem | hmem
    · exact h.running entry hmem
    · have hentry := hentries entry hmem
      cases entry <;> first | rfl | cases hentry

/-- An event adds to an ended call nothing but itself. -/
theorem Ended.snoc (h : Ended settings c) {c' : NavigationCall} {event : PageEvent}
    (hlog : c'.log = c.log ++ [.occurred event]) : Ended settings c' := by
  -- The event itself is no subscription and no disposal.
  have hcount : ∀ entry, isManaging entry = true → c'.log.count entry = c.log.count entry := by
    intro entry hentry
    have hnone : List.count entry [.occurred event] = 0 := by
      refine List.count_eq_zero.mpr fun hmem => ?_
      rw [List.mem_singleton.mp hmem] at hentry
      cases hentry
    rw [hlog, List.count_append, hnone, Nat.add_zero]
  constructor
  case initiated =>
    simpa [hlog, List.countP_append, NavigationEntry.isInitiated] using h.initiated
  case subscribed =>
    intro listener
    rw [hcount _ rfl]
    exact h.subscribed listener
  case disposed_le =>
    intro listener
    rw [hcount _ rfl, hcount _ rfl]
    exact h.disposed_le listener
  case disposed =>
    intro listener
    rw [hcount _ rfl, hcount _ rfl]
    exact h.disposed listener
  case returned =>
    intro hmem
    rw [hlog] at hmem ⊢
    rcases List.mem_append.mp hmem with hmem | hmem
    · exact (h.returned hmem).append _
    · exact nomatch List.mem_singleton.mp hmem

/-- Each way out of the `try` disposes of both subscriptions. -/
theorem Listening.finish (h : Listening settings c)
    (hinitiated : c.log.countP NavigationEntry.isInitiated ≤ 1) {outcome : Except ThrownError Unit}
    (hok : outcome = .ok () → Confirmed settings c.log) : Ended settings (c.finish outcome) := by
  have hexit : (exitEntry outcome).isInitiated = false := by
    cases outcome <;> rfl
  have hmap :
      (c.unsubscribers.map NavigationEntry.disposed).countP NavigationEntry.isInitiated = 0 :=
    List.countP_eq_zero.mpr fun entry hmem => by
      obtain ⟨_, _, rfl⟩ := List.mem_map.mp hmem
      exact Bool.false_ne_true
  have hsubscribed : ∀ listener, (c.finish outcome).log.count (.subscribed listener) = 1 := by
    intro listener
    rw [finish_eq]
    have hexit : List.count (.subscribed listener) [exitEntry outcome] = 0 := by
      cases outcome <;> rfl
    have hnone : (c.unsubscribers.map NavigationEntry.disposed).count (.subscribed listener) = 0 :=
      List.count_eq_zero.mpr (by simp)
    simp only [List.count_append, h.subscribed, hexit, hnone]
  have hdisposed : ∀ listener, (c.finish outcome).log.count (.disposed listener) =
      if settings.disposes listener then 1 else 0 := by
    intro listener
    rw [finish_eq]
    have hexit : List.count (.disposed listener) [exitEntry outcome] = 0 := by
      cases outcome <;> rfl
    simp only [List.count_append, h.disposed, hexit, h.unsubscribers, Nat.zero_add, Nat.add_zero]
    cases hload : settings.disposes .loadEventFired <;>
      cases hstopped : settings.disposes .frameStoppedLoading <;>
      cases listener <;> simp [hload, hstopped]
  constructor
  case initiated =>
    rw [finish_eq]
    simp only [List.countP_append, hmap, List.countP_singleton, hexit]
    simpa using hinitiated
  case subscribed => exact fun listener => Nat.le_of_eq (hsubscribed listener)
  case disposed_le =>
    intro listener
    rw [hsubscribed, hdisposed]
    split <;> omega
  case disposed =>
    intro listener hdisposes
    rw [hsubscribed, hdisposed, if_pos hdisposes]
  case returned =>
    intro hmem
    rw [finish_eq] at hmem ⊢
    cases outcome with
    | ok _ =>
      dsimp only
      rw [List.append_assoc]
      exact (hok rfl).append _
    | error error =>
      -- Neither the log so far nor the end has a return in it.
      simp only [List.mem_append, List.mem_map, List.mem_singleton] at hmem
      rcases hmem with (hmem | ⟨_, _, habsurd⟩) | habsurd
      · exact nomatch h.running _ hmem
      · exact nomatch habsurd
      · exact nomatch habsurd

/-- With an abort the call is left, without one it goes on. -/
theorem unlessAborted_cases (next : NavigationCall) :
    c.unlessAborted next = next ∧ c.aborted = none ∨
      ∃ error, c.unlessAborted next = c.finish (.error error) := by
  rw [unlessAborted.eq_def]
  cases c.aborted with
  | none => exact .inl ⟨rfl, rfl⟩
  | some reason => exact .inr ⟨_, rfl⟩

/-- Leaving the `try` is sound. -/
theorem Listening.sound_finish (h : Listening settings c)
    (hinitiated : c.log.countP NavigationEntry.isInitiated ≤ 1) {outcome : Except ThrownError Unit}
    (hok : outcome = .ok () → Confirmed settings c.log) : Sound settings (c.finish outcome) :=
  .ended (by rw [finish_eq]) (h.finish hinitiated hok)

/-- A call that throws disposes of both. -/
theorem Listening.sound_throw (h : Listening settings c) (htracks : Tracks c.settlement c.log)
    (error : ThrownError) : Sound settings (c.finish (.error error)) :=
  h.sound_finish (Nat.le_of_eq htracks.initiated) nofun

/-- Requesting the frame tree after the settlement. -/
theorem Listening.awaitRoute (h : Listening settings c) (htracks : Tracks c.settlement c.log)
    (hsettles : Settles c.log) : Sound settings c.awaitRoute := by
  rcases unlessAborted_cases (c := c) { c.record .frameTreeRequested with phase := .reading } with
    ⟨hnext, -⟩ | ⟨error, hthrow⟩
  · rw [NavigationCall.awaitRoute, hnext]
    refine .reading rfl (h.append rfl rfl rfl ?_) ?_ ⟨c.log, [], rfl, hsettles, nofun⟩
    · simp [isManaging]
    · exact htracks.snoc rfl rfl nofun
  · rw [NavigationCall.awaitRoute, hthrow]
    exact h.sound_throw htracks error

/-- The loop goes on waiting, or has both events and requests the frame tree. -/
theorem Listening.awaitSettlement (h : Listening settings c) (htracks : Tracks c.settlement c.log) :
    Sound settings c.awaitSettlement := by
  rw [NavigationCall.awaitSettlement]
  split
  · rcases unlessAborted_cases (c := c) { c with phase := .waiting } with
      ⟨hnext, -⟩ | ⟨error, hthrow⟩
    · rw [hnext]
      exact .waiting rfl ⟨h.listening, h.unsubscribers, h.subscribed, h.disposed, h.running⟩ htracks
    · rw [hthrow]
      exact h.sound_throw htracks error
  · next hflags =>
    refine h.awaitRoute htracks (htracks.settles_iff.mp ?_)
    simpa [Bool.and_eq_true] using hflags

/-- Before the call there is nothing in the log but events. -/
theorem untouched {log : List NavigationEntry}
    (hlog : ∀ entry ∈ log, ∃ event, entry = .occurred event) :
    log.any NavigationEntry.isInitiated = false ∧
      (∀ listener, log.count (.subscribed listener) = 0) ∧
      ∀ listener, log.count (.disposed listener) = 0 := by
  refine ⟨List.any_eq_false.mpr fun entry hmem => ?_, ?_, ?_⟩
  · obtain ⟨event, rfl⟩ := hlog entry hmem
    exact Bool.false_ne_true
  · refine fun listener => List.count_eq_zero.mpr fun hmem => ?_
    obtain ⟨event, habsurd⟩ := hlog _ hmem
    exact nomatch habsurd
  · refine fun listener => List.count_eq_zero.mpr fun hmem => ?_
    obtain ⟨event, habsurd⟩ := hlog _ hmem
    exact nomatch habsurd

/-! ## The steps -/

/-- The call subscribes, or is refused at once. -/
theorem sound_call (hnone : c.listening = [] ∧ c.unsubscribers = [])
    (hlog : ∀ entry ∈ c.log, ∃ event, entry = .occurred event) (hsettlement : c.settlement = {})
    (closed : Bool) : Sound settings (c.call settings closed) := by
  obtain ⟨hinitiated, hnotSubscribed, hnotDisposed⟩ := untouched hlog
  -- Refused: nothing was initiated, so nothing was subscribed or disposed.
  have hrefused : ∀ error, Sound settings (c.settle (.error error)) := by
    intro error
    have hsubscribed :
        ∀ listener, (c.settle (.error error)).log.count (.subscribed listener) = 0 := by
      intro listener
      simp [settle, record, hnotSubscribed]
    have hdisposed : ∀ listener, (c.settle (.error error)).log.count (.disposed listener) = 0 := by
      intro listener
      simp [settle, record, hnotDisposed]
    refine .ended rfl ⟨?_, ?_, ?_, ?_, ?_⟩
    · simp [settle, record, List.countP_append, countP_isInitiated hinitiated,
        NavigationEntry.isInitiated]
    · exact fun listener => Nat.le_of_eq (hsubscribed listener) |>.trans (Nat.zero_le 1)
    · exact fun listener => Nat.le_of_eq ((hdisposed listener).trans (hsubscribed listener).symm)
    · exact fun listener _ => (hdisposed listener).trans (hsubscribed listener).symm
    · intro hmem
      rcases List.mem_append.mp hmem with hmem | hmem
      · obtain ⟨event, hevent⟩ := hlog _ hmem
        exact nomatch hevent
      · exact nomatch List.mem_singleton.mp hmem
  rw [call.eq_def]
  split
  · exact hrefused _
  · split
    · exact hrefused _
    · split
      · exact hrefused _
      · -- Both listeners are on before the page is asked for anything.
        have hentries : ∀ entry ∈ c.log ++ [.subscribed .loadEventFired] ++
            [.subscribed .frameStoppedLoading],
            (∃ event, entry = .occurred event) ∨ ∃ listener, entry = .subscribed listener := by
          intro entry hmem
          simp only [List.mem_append, List.mem_singleton] at hmem
          rcases hmem with (hmem | hmem) | hmem
          · exact .inl (hlog entry hmem)
          · exact .inr ⟨_, hmem⟩
          · exact .inr ⟨_, hmem⟩
        rw [subscribe_eq, subscribe_eq]
        refine .enabling rfl ⟨?_, ?_, ?_, ?_, ?_⟩ ⟨hsettlement, ?_, ?_⟩
        · intro listener
          cases listener <;> simp [hnone.1]
        · dsimp only
          rw [hnone.2, List.nil_append, ← List.filter_append]
          rfl
        · intro listener
          cases listener <;> simp [hnotSubscribed]
        · simp [hnotDisposed]
        · intro entry hmem
          rcases hentries entry hmem with ⟨_, rfl⟩ | ⟨_, rfl⟩ <;> rfl
        · simp [hinitiated, NavigationEntry.isInitiated]
        · intro result hmem
          rcases hentries _ hmem with ⟨_, habsurd⟩ | ⟨_, habsurd⟩ <;> cases habsurd

/-- From `Page.enable` on, the events count. -/
theorem sound_afterEnable (hlistening : Listening settings c) (hpreparing : Preparing c)
    (answer : Except ThrownError Unit) : Sound settings (c.afterEnable settings answer) := by
  have hinitiated : c.log.countP NavigationEntry.isInitiated ≤ 1 :=
    Nat.le_of_eq (countP_isInitiated hpreparing.initiated) |>.trans (Nat.zero_le 1)
  have hthrow : ∀ error, Sound settings (c.finish (.error error)) :=
    fun _ => hlistening.sound_finish hinitiated nofun
  rw [afterEnable.eq_def]
  cases answer with
  | error _ => exact hthrow _
  | ok _ =>
    dsimp only
    rcases unlessAborted_cases (c := c)
        { c.record (.initiated settings.url) with
          settlement := { c.settlement with navigationInitiated := true }
          phase := .navigating } with ⟨hnext, -⟩ | ⟨error, hfinish⟩
    · rw [hnext]
      refine .navigating rfl (hlistening.append rfl rfl rfl ?_) ?_ ?_
      · simp [isManaging]
      · rw [hpreparing.settlement]
        exact tracks_initiated hpreparing.initiated settings.url
      · intro result hmem
        rcases List.mem_append.mp hmem with hmem | hmem
        · exact hpreparing.navigated result hmem
        · exact nomatch List.mem_singleton.mp hmem
    · rw [hfinish]
      exact hthrow error

/-- The answer of `Page.navigate` says which frame to wait for. -/
theorem sound_afterNavigate (hprompt : c.Prompt) (hlistening : Listening settings c)
    (htracks : Tracks c.settlement c.log) (hnone : ∀ result, .navigated result ∉ c.log)
    (answer : Except ThrownError NavigateResult) : Sound settings (c.afterNavigate answer) := by
  rw [afterNavigate.eq_def]
  cases answer with
  | error _ => exact hlistening.sound_throw htracks _
  | ok result =>
    have hrecord : Listening settings (c.record (.navigated result)) :=
      hlistening.append rfl rfl rfl (by simp [isManaging])
    dsimp only
    split
    · refine hrecord.sound_finish ?_ nofun
      simp [record, List.countP_append, htracks.initiated, NavigationEntry.isInitiated]
    · cases hframe : result.frameId with
      | none => exact hrecord.awaitSettlement (htracks.no_target hframe)
      | some frameId =>
        rw [target_eq (c := c.record (.navigated result)) hprompt (htracks.unanswered hnone).2.2]
        refine Listening.awaitSettlement ⟨?_, ?_, ?_, ?_, ?_⟩ (htracks.target hnone hframe)
        · exact hrecord.listening
        · exact hrecord.unsubscribers
        · exact hrecord.subscribed
        · exact hrecord.disposed
        · exact hrecord.running

/-- The answer of `Page.getFrameTree` ends the call, or is asked for again. -/
theorem sound_afterFrameTree (hlistening : Listening settings c)
    (htracks : Tracks c.settlement c.log) (hrequested : Requested c) (answer : Except ThrownError PageFrame) :
    Sound settings (c.afterFrameTree settings answer) := by
  rw [afterFrameTree.eq_def]
  cases answer with
  | error _ => exact hlistening.sound_throw htracks _
  | ok frame =>
    have hrecord : Listening settings (c.record (.frameTreeRead frame.url)) :=
      hlistening.append rfl rfl rfl (by simp [isManaging])
    have htracked : Tracks c.settlement (c.record (.frameTreeRead frame.url)).log :=
      htracks.snoc rfl rfl nofun
    obtain ⟨before, during, hlog, hsettles, hduring⟩ := hrequested
    have hread : (c.record (.frameTreeRead frame.url)).log =
        before ++ .frameTreeRequested :: (during ++ .frameTreeRead frame.url :: []) := by
      simp [record, hlog]
    dsimp only
    split
    · next hroute =>
      refine hrecord.sound_finish (Nat.le_of_eq htracked.initiated) fun _ => ?_
      exact ⟨before, during, [], frame.url, hread, hsettles, hduring, hroute⟩
    · refine .pausing rfl ?_ htracked ?_
      · exact ⟨hrecord.listening, hrecord.unsubscribers, hrecord.subscribed, hrecord.disposed,
          hrecord.running⟩
      · exact hread ▸ hsettles.append _

/-- An event leaves the call where it is. -/
theorem sound_occur (hprompt : c.Prompt) (h : Sound settings c) (event : PageEvent) :
    Sound settings (c.occur event) := by
  rw [occur_eq hprompt]
  have hkept : Listening settings c → Listening settings ((c.record (.occurred event)).keeping
      (if event.listener ∈ c.listening then c.settlement.observe event else c.settlement)) :=
    fun hlistening => hlistening.append rfl rfl rfl (by simp [isManaging])
  have htracked : Listening settings c → Tracks c.settlement c.log → Tracks
      (if event.listener ∈ c.listening then c.settlement.observe event else c.settlement)
      (c.log ++ [.occurred event]) := by
    intro hlistening htracks
    rw [if_pos (hlistening.listening _)]
    exact htracks.observe event
  -- Before the initiation the listeners do nothing.
  have hearly : c.settlement = {} → (if event.listener ∈ c.listening then c.settlement.observe event
      else c.settlement) = {} := by
    intro hsettlement
    rw [hsettlement]
    split
    · rfl
    · rfl
  have hnavigated : (∀ result, .navigated result ∉ c.log) →
      ∀ result, .navigated result ∉ c.log ++ [.occurred event] := by
    intro hnone result hmem
    rcases List.mem_append.mp hmem with hmem | hmem
    · exact hnone result hmem
    · exact nomatch List.mem_singleton.mp hmem
  cases h with
  | idle hphase hnone hlog hsettlement =>
    refine .idle hphase hnone ?_ (hearly hsettlement)
    intro entry hmem
    rcases List.mem_append.mp hmem with hmem | hmem
    · exact hlog entry hmem
    · exact ⟨event, List.mem_singleton.mp hmem⟩
  | enabling hphase hlistening hpreparing =>
    refine .enabling hphase (hkept hlistening) ⟨hearly hpreparing.settlement, ?_, ?_⟩
    · simp [keeping, record, hpreparing.initiated, NavigationEntry.isInitiated]
    · exact hnavigated hpreparing.navigated
  | navigating hphase hlistening htracks hnone =>
    exact .navigating hphase (hkept hlistening) (htracked hlistening htracks) (hnavigated hnone)
  | waiting hphase hlistening htracks =>
    exact .waiting hphase (hkept hlistening) (htracked hlistening htracks)
  | reading hphase hlistening htracks hrequested =>
    refine .reading hphase (hkept hlistening) (htracked hlistening htracks) ?_
    obtain ⟨before, during, hlog, hsettles, hduring⟩ := hrequested
    refine ⟨before, during ++ [.occurred event], ?_, hsettles, ?_⟩
    · simp [keeping, record, hlog]
    · intro entry hmem
      rcases List.mem_append.mp hmem with hmem | hmem
      · exact hduring entry hmem
      · exact ⟨event, List.mem_singleton.mp hmem⟩
  | pausing hphase hlistening htracks hsettles =>
    exact .pausing hphase (hkept hlistening) (htracked hlistening htracks) (hsettles.append _)
  | ended hphase hended => exact .ended hphase (hended.snoc rfl)

/-! ## Every run -/

section Prompt

variable (h : c.Prompt)
include h

/-- An end changes no flag. -/
theorem prompt_finish (outcome : Except ThrownError Unit) : (c.finish outcome).Prompt := by
  rw [finish_eq]
  exact h

/-- Nor does an abort. -/
theorem prompt_unlessAborted {next : NavigationCall} (hnext : next.Prompt) :
    (c.unlessAborted next).Prompt := by
  rcases unlessAborted_cases (c := c) next with ⟨heq, -⟩ | ⟨error, heq⟩
  · rw [heq]
    exact hnext
  · rw [heq]
    exact prompt_finish h _

/-- Nor does the request of the frame tree. -/
theorem prompt_awaitRoute : c.awaitRoute.Prompt := prompt_unlessAborted h h

/-- Nor the wait for the settlement. -/
theorem prompt_awaitSettlement : c.awaitSettlement.Prompt := by
  rw [NavigationCall.awaitSettlement]
  split
  · exact prompt_unlessAborted h h
  · exact prompt_awaitRoute h

end Prompt

/-- A call begins promptly. -/
theorem prompt_call (h : c.Prompt) (closed : Bool) : (c.call settings closed).Prompt := by
  rw [call.eq_def]
  split
  · exact h
  · split
    · exact h
    · split
      · exact h
      · rw [subscribe_eq, subscribe_eq]
        exact h

/-- It is prompt when its domain is enabled. -/
theorem prompt_afterEnable (h : c.Prompt) (answer : Except ThrownError Unit) :
    (c.afterEnable settings answer).Prompt := by
  rw [afterEnable.eq_def]
  cases answer with
  | error _ => exact prompt_finish h _
  | ok _ => exact prompt_unlessAborted h h

/-- And when the frame tree is there. -/
theorem prompt_afterFrameTree (h : c.Prompt) (answer : Except ThrownError PageFrame) :
    (c.afterFrameTree settings answer).Prompt := by
  rw [afterFrameTree.eq_def]
  cases answer with
  | error _ => exact prompt_finish h _
  | ok frame =>
    dsimp only
    split
    · exact prompt_finish (c := c.record (.frameTreeRead frame.url)) h _
    · exact h

/-- And when the navigation is answered, as the frame that it returned may have stopped before. -/
theorem prompt_afterNavigate (h : c.Prompt) (hflag : c.settlement.matchingFrameStopped = false)
    (answer : Except ThrownError NavigateResult) : (c.afterNavigate answer).Prompt := by
  rw [afterNavigate.eq_def]
  cases answer with
  | error _ => exact prompt_finish h _
  | ok result =>
    have hrecord : (c.record (.navigated result)).Prompt := h
    dsimp only
    split
    · exact prompt_finish hrecord _
    · refine prompt_awaitSettlement ?_
      cases result.frameId with
      | none => exact hrecord
      | some frameId =>
        rw [target_eq (c := c.record (.navigated result)) hrecord hflag]
        exact prompt_keeping _ _

/-- An abort is only noted. -/
theorem sound_abort (h : Sound settings c) (reason : Option (Option ThrownError)) :
    Sound settings { c with aborted := reason } := by
  have hkept : Listening settings c → Listening settings { c with aborted := reason } :=
    fun hlistening => hlistening.append rfl rfl (List.append_nil c.log).symm nofun
  cases h with
  | idle hphase hnone hlog hsettlement => exact .idle hphase hnone hlog hsettlement
  | enabling hphase hlistening hpreparing =>
    exact .enabling hphase (hkept hlistening)
      ⟨hpreparing.settlement, hpreparing.initiated, hpreparing.navigated⟩
  | navigating hphase hlistening htracks hnone =>
    exact .navigating hphase (hkept hlistening) htracks hnone
  | waiting hphase hlistening htracks => exact .waiting hphase (hkept hlistening) htracks
  | reading hphase hlistening htracks hrequested =>
    exact .reading hphase (hkept hlistening) htracks hrequested
  | pausing hphase hlistening htracks hsettles =>
    exact .pausing hphase (hkept hlistening) htracks hsettles
  | ended hphase hended =>
    exact .ended hphase
      ⟨hended.initiated, hended.subscribed, hended.disposed_le, hended.disposed, hended.returned⟩

/-- What holds of a call holds after every step. -/
theorem sound_step (hprompt : c.Prompt) (h : Sound settings c) {input : NavigationInput}
    {c' : NavigationCall} (hstep : c.step settings input = some c') :
    c'.Prompt ∧ Sound settings c' := by
  -- Each input is possible at one phase only, or at two where time passes.
  cases input with
  | occur event =>
    obtain rfl := Option.some.inj hstep
    refine ⟨?_, sound_occur hprompt h event⟩
    rw [occur_eq hprompt]
    exact prompt_keeping _ _
  | abort reason =>
    obtain ⟨-, ⟨⟩⟩ := Option.ite_none_right_eq_some.mp hstep
    exact ⟨hprompt, sound_abort h _⟩
  | call closed =>
    obtain ⟨hidle, ⟨⟩⟩ := Option.ite_none_right_eq_some.mp hstep
    refine ⟨prompt_call hprompt closed, ?_⟩
    cases h with
    | idle hphase hnone hlog hsettlement => exact sound_call hnone hlog hsettlement closed
    | _ hphase => cases hidle.symm.trans hphase
  -- What is being awaited is still awaited: the answer ends the phase.
  | enabled answer =>
    obtain ⟨henabling, ⟨⟩⟩ := Option.ite_none_right_eq_some.mp hstep
    cases h with
    | enabling hphase hlistening hpreparing =>
      exact ⟨prompt_afterEnable hprompt answer, sound_afterEnable hlistening hpreparing answer⟩
    | _ hphase => cases henabling.symm.trans hphase
  | navigated answer =>
    obtain ⟨hnavigating, ⟨⟩⟩ := Option.ite_none_right_eq_some.mp hstep
    cases h with
    | navigating hphase hlistening htracks hnone =>
      exact ⟨prompt_afterNavigate hprompt (htracks.unanswered hnone).2.2 answer,
        sound_afterNavigate hprompt hlistening htracks hnone answer⟩
    | _ hphase => cases hnavigating.symm.trans hphase
  | settled =>
    obtain ⟨⟨hwaiting, -⟩, ⟨⟩⟩ := Option.ite_none_right_eq_some.mp hstep
    refine ⟨prompt_awaitSettlement hprompt, ?_⟩
    cases h with
    | waiting hphase hlistening htracks => exact hlistening.awaitSettlement htracks
    | _ hphase => cases hwaiting.symm.trans hphase
  | elapsed =>
    rw [step.eq_def] at hstep
    -- Time passes in two phases, with the same check after it.
    cases h with
    | waiting hphase hlistening htracks =>
      simp only [hphase, Option.some.injEq] at hstep
      subst hstep
      exact ⟨prompt_awaitSettlement hprompt, hlistening.awaitSettlement htracks⟩
    | pausing hphase hlistening htracks hsettles =>
      simp only [hphase, Option.some.injEq] at hstep
      subst hstep
      exact ⟨prompt_awaitRoute hprompt, hlistening.awaitRoute htracks hsettles⟩
    | _ hphase => simp [hphase] at hstep
  | rejected =>
    rw [step.eq_def] at hstep
    cases haborted : c.aborted with
    | none => simp [haborted] at hstep
    | some reason =>
      cases h with
      | waiting hphase hlistening htracks =>
        simp only [hphase, haborted, Option.some.injEq] at hstep
        subst hstep
        exact ⟨prompt_finish hprompt _, hlistening.sound_throw htracks _⟩
      | pausing hphase hlistening htracks hsettles =>
        simp only [hphase, haborted, Option.some.injEq] at hstep
        subst hstep
        exact ⟨prompt_finish hprompt _, hlistening.sound_throw htracks _⟩
      | _ hphase => simp [hphase] at hstep
  | frameTree answer =>
    obtain ⟨hreading, ⟨⟩⟩ := Option.ite_none_right_eq_some.mp hstep
    cases h with
    | reading hphase hlistening htracks hrequested =>
      exact ⟨prompt_afterFrameTree hprompt answer,
        sound_afterFrameTree hlistening htracks hrequested answer⟩
    | _ hphase => cases hreading.symm.trans hphase

/-- What holds of a call holds after every run. -/
theorem sound_run {inputs : List NavigationInput}
    (hrun : Machine.exec (step settings) {} inputs = some c) : c.Prompt ∧ Sound settings c := by
  have hinitial : ({} : NavigationCall).Prompt ∧ Sound settings {} :=
    ⟨rfl, .idle rfl ⟨rfl, rfl⟩ nofun rfl⟩
  exact Machine.exec_invariant (I := fun c => c.Prompt ∧ Sound settings c)
    (fun _ _ _ h hstep => sound_step h.1 h.2 hstep) hinitial hrun

end NavigationCall

open NavigationCall in
/-- The law of one call. -/
structure NavigationLaw (settings : NavigationSettings) (c : NavigationCall) : Prop where
  returned : .returned ∈ c.log → Confirmed settings c.log
  initiated : c.log.countP NavigationEntry.isInitiated ≤ 1
  kept : c.phase ≠ .ended →
    ((c.settlement.loadEventFired && c.settlement.matchingFrameStopped) = true ↔ Settles c.log)
  proceeds : c.phase = .waiting → Settles c.log → ∃ c', c.step settings .settled = some c' ∧
    (c'.phase = .reading ∨ ∃ error, .threw error ∈ c'.log)
  subscribed : ∀ listener, c.log.count (.subscribed listener) ≤ 1
  disposed_le : ∀ listener, c.log.count (.disposed listener) ≤ c.log.count (.subscribed listener)
  disposed : (∃ entry ∈ c.log, entry.isExit = true) → ∀ listener,
    settings.disposes listener = true →
      c.log.count (.disposed listener) = c.log.count (.subscribed listener)

namespace NavigationCall

variable {settings : NavigationSettings} {c : NavigationCall}

/-- While both subscriptions are in place, they are not disposed of, and the call has not ended. -/
theorem Listening.law (hlistening : Listening settings c) (hprompt : c.Prompt)
    (hinitiated : c.log.countP NavigationEntry.isInitiated ≤ 1)
    (hkept : (c.settlement.loadEventFired && c.settlement.matchingFrameStopped) = true ↔
      Settles c.log) : NavigationLaw settings c where
  returned hmem := nomatch hlistening.running _ hmem
  initiated := hinitiated
  kept _ := hkept
  proceeds hphase hsettles := by
    have hflags := hkept.mpr hsettles
    have hresolved : c.settlementResolved = true := hprompt.trans hflags
    rw [Bool.and_eq_true] at hflags
    refine ⟨c.awaitRoute, ?_, ?_⟩
    · rw [step, if_pos ⟨hphase, hresolved⟩, NavigationCall.awaitSettlement, hflags.1, hflags.2]
      rfl
    · rcases unlessAborted_cases (c := c) { c.record .frameTreeRequested with phase := .reading }
        with ⟨hnext, -⟩ | ⟨error, hthrow⟩
      · exact .inl (congrArg NavigationCall.phase hnext)
      · refine .inr ⟨error, ?_⟩
        rw [NavigationCall.awaitRoute, hthrow, finish_eq]
        exact List.mem_append_right _ List.mem_cons_self
  subscribed listener := Nat.le_of_eq (hlistening.subscribed listener)
  disposed_le listener := by
    rw [hlistening.disposed]
    exact Nat.zero_le _
  disposed := by
    rintro ⟨entry, hmem, hexit⟩
    exact nomatch hexit.symm.trans (hlistening.running entry hmem)

/-- Before the call only events have occurred. -/
theorem law_of_idle (hphase : c.phase = .idle)
    (hlog : ∀ entry ∈ c.log, ∃ event, entry = .occurred event) (hsettlement : c.settlement = {}) :
    NavigationLaw settings c := by
  obtain ⟨hinitiated, hsubscribed, hdisposed⟩ := untouched hlog
  constructor
  case returned =>
    intro hmem
    obtain ⟨event, hevent⟩ := hlog _ hmem
    exact nomatch hevent
  case initiated => exact Nat.le_of_eq (countP_isInitiated hinitiated) |>.trans (Nat.zero_le 1)
  case kept =>
    intro _
    rw [hsettlement]
    exact iff_of_false Bool.false_ne_true (not_settles hinitiated)
  case proceeds => exact fun hwaiting => nomatch hphase.symm.trans hwaiting
  case subscribed =>
    intro listener
    rw [hsubscribed]
    exact Nat.zero_le 1
  case disposed_le =>
    intro listener
    rw [hdisposed]
    exact Nat.zero_le _
  case disposed => exact fun _ listener _ => (hdisposed listener).trans (hsubscribed listener).symm

/-- The law of a call is what is known where it has ended. -/
theorem law_of_sound (hprompt : c.Prompt) (h : Sound settings c) : NavigationLaw settings c := by
  cases h with
  | idle hphase hnone hlog hsettlement => exact law_of_idle hphase hlog hsettlement
  | enabling hphase hlistening hpreparing =>
    refine hlistening.law hprompt ?_ ?_
    · exact Nat.le_of_eq (countP_isInitiated hpreparing.initiated) |>.trans (Nat.zero_le 1)
    · rw [hpreparing.settlement]
      exact iff_of_false Bool.false_ne_true (not_settles hpreparing.initiated)
  | navigating hphase hlistening htracks hnone =>
    exact hlistening.law hprompt (Nat.le_of_eq htracks.initiated) htracks.settles_iff
  | waiting hphase hlistening htracks =>
    exact hlistening.law hprompt (Nat.le_of_eq htracks.initiated) htracks.settles_iff
  | reading hphase hlistening htracks hrequested =>
    exact hlistening.law hprompt (Nat.le_of_eq htracks.initiated) htracks.settles_iff
  | pausing hphase hlistening htracks hsettles =>
    exact hlistening.law hprompt (Nat.le_of_eq htracks.initiated) htracks.settles_iff
  | ended hphase hended =>
    constructor
    case returned => exact hended.returned
    case initiated => exact hended.initiated
    case kept => exact fun hrunning => absurd hphase hrunning
    case proceeds => exact fun hwaiting => nomatch hphase.symm.trans hwaiting
    case subscribed => exact hended.subscribed
    case disposed_le => exact hended.disposed_le
    case disposed => exact fun _ => hended.disposed

end NavigationCall

/-- Navigation settlement is order-independent. -/
theorem navigation_settlement (settings : NavigationSettings) {inputs : List NavigationInput}
    {c : NavigationCall} (hrun : Machine.exec (NavigationCall.step settings) {} inputs = some c) :
    NavigationLaw settings c :=
  NavigationCall.law_of_sound (NavigationCall.sound_run hrun).1 (NavigationCall.sound_run hrun).2

/-- A run in which the frame stops before `Page.navigate` answers which one it is, the load event
comes after, and the first frame tree has another route. -/
theorem navigation_settlement_stopped_first :
    let settings : NavigationSettings :=
      { platform := ⟨fun host => some (host.map Char.toLower), fun _ _ => none, fun _ => []⟩
        url := "https://chatgpt.com/"
        expectedRoute := .freshRoot
        pageLifecycle := true
        disposes := fun _ => true }
    let inputs : List NavigationInput :=
      [.call false, .occur .loadEventFired, .enabled (.ok ()),
        .occur (.frameStoppedLoading (some "main")), .navigated (.ok ⟨some "main", none⟩), .elapsed,
        .occur .loadEventFired, .settled, .frameTree (.ok ⟨"main", "", "https://chatgpt.com/c/a"⟩),
        .elapsed, .frameTree (.ok ⟨"main", "", "https://chatgpt.com/"⟩)]
    ∃ c, Machine.exec (NavigationCall.step settings) {} inputs = some c ∧ .returned ∈ c.log ∧
      NavigationLaw settings c := by
  intro settings inputs
  have hreturned : (Machine.exec (NavigationCall.step settings) {} inputs).any
      (fun c => c.log.contains .returned) = true := by
    decide +kernel
  obtain ⟨c, hrun, hmem⟩ := (Option.any_eq_true _ _).mp hreturned
  exact ⟨c, hrun, List.contains_iff_mem.mp hmem, navigation_settlement settings hrun⟩

end Threadwire
