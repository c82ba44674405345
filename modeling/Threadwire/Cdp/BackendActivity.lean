import Mathlib.Data.Finset.Basic
import Threadwire.Cdp.CdpResponseStreamTracker
import Threadwire.Machine.Stamp
import Threadwire.Readiness.RouteSoundness

/-!
# The backend activity of a session

`cdp/ChromeRemoteInterfaceSession.ts`: the session keeps the requests to the backend that are under
way, and an epoch that is part of each readiness snapshot. The epoch counts the changes of the
former, so two snapshots of one epoch say that no such request has begun or ended in between.
-/

namespace Threadwire

/-- `isRelevantBackendUrl`. -/
def isRelevantBackendUrl (parseUrl : UrlParser) (rawUrl : String) : Bool :=
  match parseUrl rawUrl with
  | none => false
  | some url =>
    url.origin == CHATGPT_ORIGIN && "/backend-api/".toList.isPrefixOf url.pathname.toList

/-- The fields of a session that its readiness observation uses, and whether it awaits the answer of
`Network.enable`. -/
structure ReadinessObservation where
  activeRelevantRequestIds : Finset RequestId := ∅
  activityEpoch : ℕ := 0
  readinessInitialized : Bool := false
  subscribed : Bool := false
  enabling : Bool := false
  closed : Bool := false

/-- What happens to a session. -/
inductive ReadinessInput where
  | initializeReadinessObservation
  | enabled (succeeded : Bool)
  | requestWillBeSent (requestId : RequestId) (rawUrl : String)
  | requestSettled (requestId : RequestId)
  | close
  | disconnect
deriving DecidableEq, Repr

namespace ReadinessObservation

/-- `disposeReadinessObservation`. -/
def disposeReadinessObservation (s : ReadinessObservation) : ReadinessObservation :=
  { s with
    subscribed := false
    activeRelevantRequestIds := ∅
    activityEpoch := 0
    readinessInitialized := false }

/-- `onRequestWillBeSent`. -/
def onRequestWillBeSent (s : ReadinessObservation) (parseUrl : UrlParser) (requestId : RequestId)
    (rawUrl : String) : ReadinessObservation :=
  let relevant := isRelevantBackendUrl parseUrl rawUrl
  let wasRelevant := decide (requestId ∈ s.activeRelevantRequestIds)
  if relevant && !wasRelevant then
    { s with
      activeRelevantRequestIds := insert requestId s.activeRelevantRequestIds
      activityEpoch := s.activityEpoch + 1 }
  else if !relevant && wasRelevant then
    { s with
      activeRelevantRequestIds := s.activeRelevantRequestIds.erase requestId
      activityEpoch := s.activityEpoch + 1 }
  else s

/-- `onRequestSettled`. -/
def onRequestSettled (s : ReadinessObservation) (requestId : RequestId) : ReadinessObservation :=
  if requestId ∈ s.activeRelevantRequestIds then
    { s with
      activeRelevantRequestIds := s.activeRelevantRequestIds.erase requestId
      activityEpoch := s.activityEpoch + 1 }
  else s

/-- `close`, and `handleDisconnect`. -/
def shut (s : ReadinessObservation) : ReadinessObservation :=
  if s.closed then s else disposeReadinessObservation { s with closed := true }

variable (parseUrl : UrlParser)

/-- One step of the session; `none` where the input cannot occur. Its one caller awaits
`initializeReadinessObservation`, and the listeners hear only what happens while they are
subscribed. -/
def step (s : ReadinessObservation) : ReadinessInput → Option ReadinessObservation
  | .initializeReadinessObservation =>
    if s.enabling then none
    else if s.readinessInitialized || s.closed then some s
    else some { s with subscribed := true, enabling := true }
  | .enabled succeeded =>
    if s.enabling then
      if succeeded then some { s with enabling := false, readinessInitialized := true }
      else some (disposeReadinessObservation { s with enabling := false })
    else none
  | .requestWillBeSent requestId rawUrl =>
    if s.subscribed then some (s.onRequestWillBeSent parseUrl requestId rawUrl) else some s
  | .requestSettled requestId =>
    if s.subscribed then some (s.onRequestSettled requestId) else some s
  | .close | .disconnect => some s.shut

/-- A snapshot can be taken. -/
def Readable (s : ReadinessObservation) : Prop := s.readinessInitialized = true ∧ s.closed = false

/-! ## The invariant -/

/-- What the flags have to do with each other. -/
structure Sound (s : ReadinessObservation) : Prop where
  subscribed : s.readinessInitialized = true → s.closed = false → s.subscribed = true
  enabled : s.readinessInitialized = true → s.enabling = false
  awaits : s.enabling = true → s.closed = false → s.subscribed = true

variable {parseUrl} {s t : ReadinessObservation} {input : ReadinessInput}

/-- These are the requests that are under way now; the epoch counts it if they are others. -/
def recount (s : ReadinessObservation) (requests : Finset RequestId) : ReadinessObservation :=
  { s with
    activeRelevantRequestIds := requests
    activityEpoch := if requests = s.activeRelevantRequestIds then s.activityEpoch
      else s.activityEpoch + 1 }

/-- The same requests are not counted. -/
theorem recount_self (s : ReadinessObservation) : s.recount s.activeRelevantRequestIds = s := by
  rw [recount, if_pos rfl]

/-- A request that settles is under way no more. -/
theorem onRequestSettled_eq (s : ReadinessObservation) (requestId : RequestId) :
    s.onRequestSettled requestId = s.recount (s.activeRelevantRequestIds.erase requestId) := by
  rw [onRequestSettled]
  split
  · next hmem => rw [recount, if_neg fun heq => Finset.notMem_erase requestId _ (heq ▸ hmem)]
  · next hmem => rw [Finset.erase_eq_of_notMem hmem, recount_self]

/-- A request that is sent is under way exactly if it goes to the backend; a redirect may change
that. -/
theorem onRequestWillBeSent_eq (s : ReadinessObservation) (requestId : RequestId)
    (rawUrl : String) :
    s.onRequestWillBeSent parseUrl requestId rawUrl =
      s.recount (if isRelevantBackendUrl parseUrl rawUrl
        then insert requestId s.activeRelevantRequestIds
        else s.activeRelevantRequestIds.erase requestId) := by
  rw [onRequestWillBeSent]
  by_cases hmem : requestId ∈ s.activeRelevantRequestIds <;>
    cases hrelevant : isRelevantBackendUrl parseUrl rawUrl
  · simpa [hmem, onRequestSettled] using onRequestSettled_eq s requestId
  · simp [hmem, recount_self]
  · simp [hmem, recount_self]
  · have hne : insert requestId s.activeRelevantRequestIds ≠ s.activeRelevantRequestIds :=
      fun heq => hmem (heq ▸ Finset.mem_insert_self requestId s.activeRelevantRequestIds)
    simp [hmem, recount, hne]

/-- The requests that are under way after an event. -/
def requestsAfter (parseUrl : UrlParser) (requests : Finset RequestId) :
    ReadinessInput → Finset RequestId
  | .requestWillBeSent requestId rawUrl =>
    if isRelevantBackendUrl parseUrl rawUrl then insert requestId requests
    else requests.erase requestId
  | .requestSettled requestId => requests.erase requestId
  | _ => requests

/-- The session has been closed, and stays so. -/
def Closed (s : ReadinessObservation) : Prop := s.closed = true

/-- A new session has no flag set. -/
theorem sound_initial : Sound {} where
  subscribed h := by cases h
  enabled h := by cases h
  awaits h := by cases h

/-- Disposing of the observation clears the flags. -/
theorem Sound.dispose : Sound (disposeReadinessObservation { s with enabling := false }) where
  subscribed h := by cases h
  enabled h := by cases h
  awaits h := by cases h

/-- What a step does to a session that snapshots can be taken of: it is closed, or it counts the
requests. -/
theorem Sound.step_readable (h : Sound s) (hread : s.Readable)
    (hstep : s.step parseUrl input = some t) :
    t.Closed ∨ t = s.recount (requestsAfter parseUrl s.activeRelevantRequestIds input) := by
  obtain ⟨hinitialized, hopen⟩ := hread
  have hsubscribed := h.subscribed hinitialized hopen
  have henabled := h.enabled hinitialized
  cases input with
  | initializeReadinessObservation =>
    simp only [step, henabled, hinitialized, Bool.true_or, if_true] at hstep
    cases hstep
    exact .inr (recount_self s).symm
  | enabled succeeded =>
    rw [step, henabled] at hstep
    cases hstep
  | requestWillBeSent requestId rawUrl =>
    rw [step, if_pos hsubscribed] at hstep
    cases hstep
    exact .inr (onRequestWillBeSent_eq s requestId rawUrl)
  | requestSettled requestId =>
    rw [step, if_pos hsubscribed] at hstep
    cases hstep
    exact .inr (onRequestSettled_eq s requestId)
  | close | disconnect =>
    cases hstep
    rw [shut, hopen]
    exact .inl rfl

/-- The flags have nothing to do with the requests. -/
theorem Sound.recount (h : Sound s) (requests : Finset RequestId) : Sound (s.recount requests) :=
  ⟨h.subscribed, h.enabled, h.awaits⟩

/-- A session that is not subscribed does not hear the network, and is closed or idle. -/
theorem Sound.deaf (h : Sound s) (hsubscribed : ¬ s.subscribed = true) (hopen : s.closed = false) :
    s.enabling = false ∧ (s.readinessInitialized = true → input =
      .initializeReadinessObservation) := by
  constructor
  · by_contra henabling
    exact hsubscribed (h.awaits (by simpa using henabling) hopen)
  · exact fun hinitialized => absurd (h.subscribed hinitialized hopen) hsubscribed

/-- The step lemma. -/
theorem Sound.step (h : Sound s) (hstep : s.step parseUrl input = some t) : Sound t := by
  cases input with
  | initializeReadinessObservation =>
    rw [ReadinessObservation.step] at hstep
    split_ifs at hstep with henabling hidle <;> cases hstep
    · exact h
    · rw [Bool.not_eq_true, Bool.or_eq_false_iff] at hidle
      refine ⟨fun hinitialized => ?_, fun hinitialized => ?_, fun _ _ => rfl⟩ <;>
        cases hidle.1.symm.trans hinitialized
  | enabled succeeded =>
    -- A failed `Network.enable` disposes of the observation.
    rw [ReadinessObservation.step] at hstep
    split_ifs at hstep with henabling hsucceeded <;> cases hstep
    · exact ⟨fun _ hopen => h.awaits henabling hopen, fun _ => rfl, by rintro ⟨⟩⟩
    · exact Sound.dispose
  | requestWillBeSent requestId rawUrl =>
    rw [ReadinessObservation.step] at hstep
    split_ifs at hstep <;> cases hstep
    · rw [onRequestWillBeSent_eq]
      exact h.recount _
    · exact h
  | requestSettled requestId =>
    rw [ReadinessObservation.step] at hstep
    split_ifs at hstep <;> cases hstep
    · rw [onRequestSettled_eq]
      exact h.recount _
    · exact h
  | close | disconnect =>
    cases hstep
    rw [shut]
    split
    · exact h
    · refine ⟨by rintro ⟨⟩, by rintro ⟨⟩, ?_⟩
      rintro _ ⟨⟩

/-- No input opens a closed session. -/
theorem Closed.step (h : s.Closed) (hstep : s.step parseUrl input = some t) : t.Closed := by
  cases input with
  | initializeReadinessObservation | enabled =>
    rw [ReadinessObservation.step] at hstep
    split_ifs at hstep <;> cases hstep <;> exact h
  | requestWillBeSent requestId rawUrl =>
    rw [ReadinessObservation.step, onRequestWillBeSent_eq] at hstep
    split_ifs at hstep <;> cases hstep <;> exact h
  | requestSettled requestId =>
    rw [ReadinessObservation.step, onRequestSettled_eq] at hstep
    split_ifs at hstep <;> cases hstep <;> exact h
  | close | disconnect =>
    have hclosed : s.closed = true := h
    cases hstep
    rw [shut, if_pos hclosed]
    exact h

/-- The epoch is a stamp of the requests that are under way. -/
theorem stamped (parseUrl : UrlParser) : Machine.Stamped (step parseUrl)
    (fun s => s.Sound ∧ s.Readable) Closed activityEpoch activeRelevantRequestIds where
  opens := by
    rintro s input t ⟨hsound, hread⟩ hstep
    refine (hsound.step_readable hread hstep).symm.imp_left fun heq => ⟨hsound.step hstep, ?_⟩
    rw [heq]
    exact hread
  stays _ _ _ := Closed.step
  exclusive := by
    rintro s hclosed ⟨-, -, hopen⟩
    cases hopen.symm.trans hclosed
  counts := by
    rintro s input t ⟨hsound, hread⟩ hstep ⟨-, -, hopen⟩
    rcases hsound.step_readable hread hstep with hclosed | rfl
    · cases hopen.symm.trans hclosed
    · rw [recount]
      split
      · next heq => exact .inl ⟨rfl, heq⟩
      · next hne => exact .inr ⟨rfl, hne⟩

/-! ## The requests that are under way -/

/-- The event is about this request. -/
def isAbout (requestId : RequestId) : ReadinessInput → Bool
  | .requestWillBeSent requestId' _ | .requestSettled requestId' => requestId' == requestId
  | _ => false

/-- The last that was heard of the request is that it is sent to the backend. -/
def Underway (parseUrl : UrlParser) (heard : List ReadinessInput) (requestId : RequestId) : Prop :=
  ∃ before rawUrl after, heard = before ++ .requestWillBeSent requestId rawUrl :: after ∧
    isRelevantBackendUrl parseUrl rawUrl = true ∧ ∀ input ∈ after, isAbout requestId input = false

/-- An event keeps a request in the set unless it is about it, and brings in only its own. -/
theorem mem_requestsAfter {requests : Finset RequestId} {requestId : RequestId} :
    requestId ∈ requestsAfter parseUrl requests input ↔
      (∃ rawUrl, input = .requestWillBeSent requestId rawUrl ∧
        isRelevantBackendUrl parseUrl rawUrl = true) ∨
      (requestId ∈ requests ∧ isAbout requestId input = false) := by
  cases input with
  | requestWillBeSent requestId' rawUrl =>
    by_cases hsame : requestId' = requestId
    · subst hsame
      cases hrelevant : isRelevantBackendUrl parseUrl rawUrl <;>
        simp [requestsAfter, isAbout, hrelevant]
    · have hne : requestId ≠ requestId' := fun h => hsame h.symm
      cases hrelevant : isRelevantBackendUrl parseUrl rawUrl <;>
        simp [requestsAfter, isAbout, hrelevant, hsame, hne]
  | requestSettled requestId' =>
    have hne : (requestId' == requestId) = false ↔ requestId ≠ requestId' := by
      rw [beq_eq_false_iff_ne, ne_comm]
    simp [requestsAfter, isAbout, hne, and_comm]
  | _ => simp [requestsAfter, isAbout]

/-- With one more input, that one says whether the request is under way if it is about it. -/
theorem underway_snoc {heard : List ReadinessInput} {requestId : RequestId} :
    Underway parseUrl (heard ++ [input]) requestId ↔
      (∃ rawUrl, input = .requestWillBeSent requestId rawUrl ∧
        isRelevantBackendUrl parseUrl rawUrl = true) ∨
      (Underway parseUrl heard requestId ∧ isAbout requestId input = false) := by
  constructor
  · rintro ⟨before, rawUrl, after, hsplit, hrelevant, hafter⟩
    -- the last input is the request itself, or it is among those after it
    rcases List.eq_nil_or_concat after with rfl | ⟨init, last, rfl⟩
    · obtain ⟨-, hlast⟩ := List.append_inj' hsplit rfl
      cases hlast
      exact .inl ⟨rawUrl, rfl, hrelevant⟩
    · rw [List.concat_eq_append, ← List.cons_append, ← List.append_assoc] at hsplit
      obtain ⟨rfl, hlast⟩ := List.append_inj' hsplit rfl
      cases hlast
      exact .inr ⟨⟨before, rawUrl, init, rfl, hrelevant, fun i hi => hafter i (by simp [hi])⟩,
        hafter _ (by simp)⟩
  · rintro (⟨rawUrl, rfl, hrelevant⟩ | ⟨⟨before, rawUrl, after, rfl, hrelevant, hafter⟩, hinput⟩)
    · exact ⟨heard, rawUrl, [], rfl, hrelevant, by simp⟩
    · refine ⟨before, rawUrl, after ++ [input], by simp, hrelevant, ?_⟩
      simp only [List.mem_append, List.mem_singleton]
      rintro i (hi | rfl)
      · exact hafter i hi
      · exact hinput

/-- What the events add up to, from no request at all. -/
theorem mem_foldl_requestsAfter (heard : List ReadinessInput) {requestId : RequestId} :
    requestId ∈ heard.foldl (requestsAfter parseUrl) ∅ ↔ Underway parseUrl heard requestId := by
  induction heard using List.reverseRecOn with
  | nil => simp [Underway]
  | append_singleton heard input ih =>
    rw [List.foldl_append, List.foldl_cons, List.foldl_nil, mem_requestsAfter, ih, underway_snoc]

/-! ## Since the subscription -/

/-- An event of the network. -/
def isEvent : ReadinessInput → Bool
  | .requestWillBeSent _ _ | .requestSettled _ => true
  | _ => false

/-- What has happened since the session subscribed: events while it awaited `Network.enable`, which
succeeded, and everything after that. -/
def HeardSince (inputs heard : List ReadinessInput) : Prop :=
  ∃ before waiting after, inputs = before ++ .initializeReadinessObservation :: heard ∧
    heard = waiting ++ .enabled true :: after ∧ (∀ input ∈ waiting, isEvent input = true) ∧
      ∀ input ∈ after, ∀ succeeded, input ≠ .enabled succeeded

/-- What the set of requests has to do with the inputs so far. -/
structure Counts (parseUrl : UrlParser) (inputs : List ReadinessInput) (s : ReadinessObservation) :
    Prop where
  unheard : s.subscribed = false → s.activeRelevantRequestIds = ∅
  used : s.subscribed = true → s.enabling = true ∨ s.readinessInitialized = true
  awaits : s.enabling = true → s.closed = false → ∃ before heard,
    inputs = before ++ .initializeReadinessObservation :: heard ∧
      (∀ input ∈ heard, isEvent input = true) ∧
      s.activeRelevantRequestIds = heard.foldl (requestsAfter parseUrl) ∅
  readable : s.Readable → ∃ heard, HeardSince inputs heard ∧
    s.activeRelevantRequestIds = heard.foldl (requestsAfter parseUrl) ∅

variable {inputs : List ReadinessInput}

/-- An initial session has heard nothing. -/
theorem counts_initial : Counts parseUrl [] {} where
  unheard _ := rfl
  used h := by cases h
  awaits h := by cases h
  readable h := by cases h.1

/-- After the subscription, one more input that is no answer of `Network.enable`. -/
theorem HeardSince.snoc {heard : List ReadinessInput} (h : HeardSince inputs heard)
    (hinput : ∀ succeeded, input ≠ .enabled succeeded) :
    HeardSince (inputs ++ [input]) (heard ++ [input]) := by
  obtain ⟨before, waiting, after, rfl, rfl, hwaiting, hafter⟩ := h
  refine ⟨before, waiting, after ++ [input], by simp, by simp, hwaiting, ?_⟩
  simp only [List.mem_append, List.mem_singleton]
  rintro i (hi | rfl)
  · exact hafter i hi
  · exact hinput

/-- The sum of the events, with one more. -/
theorem foldl_snoc {requests : Finset RequestId} {heard : List ReadinessInput}
    (h : requests = heard.foldl (requestsAfter parseUrl) ∅) (input : ReadinessInput) :
    requestsAfter parseUrl requests input =
      (heard ++ [input]).foldl (requestsAfter parseUrl) ∅ := by
  rw [List.foldl_append, ← h, List.foldl_cons, List.foldl_nil]

/-- A subscribed session counts what it hears. -/
theorem Counts.event (h : Counts parseUrl inputs s) (input : ReadinessInput)
    (hevent : isEvent input = true) (hsubscribed : s.subscribed = true) : Counts parseUrl (inputs ++ [input])
      (s.recount (requestsAfter parseUrl s.activeRelevantRequestIds input)) where
  unheard hnone := by cases hsubscribed.symm.trans hnone
  used := h.used
  awaits henabling hopen := by
    obtain ⟨before, heard, rfl, hevents, hsum⟩ := h.awaits henabling hopen
    refine ⟨before, heard ++ [input], by simp, ?_, foldl_snoc hsum input⟩
    simp only [List.mem_append, List.mem_singleton]
    rintro i (hi | rfl)
    · exact hevents i hi
    · exact hevent
  readable hread := by
    obtain ⟨heard, hheard, hsum⟩ := h.readable hread
    refine ⟨heard ++ [input], hheard.snoc ?_, foldl_snoc hsum input⟩
    rintro succeeded rfl
    cases hevent

/-- An input that leaves the session as it is, and that it does not hear. -/
theorem Counts.unchanged (h : Counts parseUrl inputs s)
    (hdeaf : s.closed = false → s.enabling = false ∧
      (s.readinessInitialized = true → input = .initializeReadinessObservation)) :
    Counts parseUrl (inputs ++ [input]) s where
  unheard := h.unheard
  used := h.used
  awaits henabling hopen := by cases henabling.symm.trans (hdeaf hopen).1
  readable hread := by
    obtain rfl := (hdeaf hread.2).2 hread.1
    obtain ⟨heard, hheard, hsum⟩ := h.readable hread
    exact ⟨_, hheard.snoc (by rintro _ ⟨⟩), foldl_snoc hsum .initializeReadinessObservation⟩

/-- A session that is not subscribed and not open to snapshots has nothing to count. -/
theorem counts_deaf (hsubscribed : s.subscribed = false) (hnone : s.activeRelevantRequestIds = ∅)
    (hawaits : s.closed = false → s.enabling = false) (hread : ¬ s.Readable) :
    Counts parseUrl inputs s where
  unheard _ := hnone
  used h := by cases hsubscribed.symm.trans h
  awaits henabling hopen := by cases henabling.symm.trans (hawaits hopen)
  readable h := absurd h hread

/-- The step lemma. -/
theorem Counts.step (h : Counts parseUrl inputs s) (hsound : s.Sound)
    (hstep : s.step parseUrl input = some t) : Counts parseUrl (inputs ++ [input]) t := by
  cases input with
  | initializeReadinessObservation =>
    rw [ReadinessObservation.step] at hstep
    split_ifs at hstep with henabling hidle <;> cases hstep
    · exact h.unchanged fun _ => ⟨by simpa using henabling, fun _ => rfl⟩
    · -- a session that subscribes was not subscribed, so it starts from the empty set
      obtain ⟨huninitialized, hopen⟩ := Bool.or_eq_false_iff.mp (Bool.not_eq_true _ ▸ hidle)
      have hnone : s.activeRelevantRequestIds = ∅ := h.unheard <| by
        by_contra hsubscribed
        rcases h.used (by simpa using hsubscribed) with hawaits | hinitialized
        · exact henabling hawaits
        · cases huninitialized.symm.trans hinitialized
      exact {
        unheard := by rintro ⟨⟩
        used := fun _ => .inl rfl
        awaits := fun _ _ => ⟨inputs, [], rfl, by simp, hnone⟩
        readable := fun hread => by cases huninitialized.symm.trans hread.1 }
  | enabled succeeded =>
    rw [ReadinessObservation.step] at hstep
    split_ifs at hstep with henabling hsucceeded <;> cases hstep
    · subst hsucceeded
      refine ⟨h.unheard, fun _ => .inr rfl, by rintro ⟨⟩, fun hread => ?_⟩
      obtain ⟨before, heard, rfl, hevents, hsum⟩ := h.awaits henabling hread.2
      have hheard : HeardSince (before ++ .initializeReadinessObservation :: heard ++ [.enabled true])
          (heard ++ [.enabled true]) :=
        ⟨before, heard, [], by simp, rfl, hevents, by simp⟩
      exact ⟨_, hheard, foldl_snoc hsum (.enabled true)⟩
    · exact counts_deaf rfl rfl (fun _ => rfl) fun hread => by cases hread.1
  | requestWillBeSent requestId rawUrl =>
    rw [ReadinessObservation.step] at hstep
    split_ifs at hstep with hsubscribed <;> cases hstep
    · rw [onRequestWillBeSent_eq]
      exact h.event (.requestWillBeSent requestId rawUrl) rfl hsubscribed
    · exact h.unchanged (hsound.deaf hsubscribed)
  | requestSettled requestId =>
    rw [ReadinessObservation.step] at hstep
    split_ifs at hstep with hsubscribed <;> cases hstep
    · rw [onRequestSettled_eq]
      exact h.event (.requestSettled requestId) rfl hsubscribed
    · exact h.unchanged (hsound.deaf hsubscribed)
  | close | disconnect =>
    cases hstep
    rw [shut]
    split
    · next hclosed => exact h.unchanged fun hopen => by cases hclosed.symm.trans hopen
    · exact counts_deaf rfl rfl (by rintro ⟨⟩) fun hread => by cases hread.1

/-- The flags are sound in every run. -/
theorem sound_of_exec
    (hrun : Machine.exec (step parseUrl) {} inputs = some s) : s.Sound :=
  Machine.exec_invariant (fun _ _ _ => Sound.step) sound_initial hrun

/-- The run lemma. -/
theorem counts_of_exec (hrun : Machine.exec (step parseUrl) {} inputs = some s) :
    Counts parseUrl inputs s :=
  Machine.exec_history counts_initial
    (fun _ _ _ _ hpast h hstep => h.step (sound_of_exec hpast) hstep) hrun

/-- The requests that a readable session counts, in every run: those of which it was last heard,
since the session subscribed, that they are sent to the backend. And what two snapshots of it say
about the time between them. -/
theorem backend_activity (parseUrl : UrlParser) {before inputs : List ReadinessInput}
    (hbefore : Machine.exec (step parseUrl) {} before = some s) (hs : s.Readable)
    (hrun : Machine.exec (step parseUrl) s inputs = some t) (ht : t.Readable) :
    (∃ heard, HeardSince (before ++ inputs) heard ∧ ∀ requestId,
      requestId ∈ t.activeRelevantRequestIds ↔ Underway parseUrl heard requestId) ∧
    s.activityEpoch ≤ t.activityEpoch ∧
    (s.activityEpoch = t.activityEpoch ↔ ∀ first rest u, inputs = first ++ rest →
      Machine.exec (step parseUrl) s first = some u →
        u.activeRelevantRequestIds = s.activeRelevantRequestIds) := by
  have hwhole : Machine.exec (step parseUrl) {} (before ++ inputs) = some t :=
    Machine.exec_append_eq_some.mpr ⟨s, hbefore, hrun⟩
  have hsound := sound_of_exec hbefore
  have hsound' := sound_of_exec hwhole
  obtain ⟨heard, hheard, hsum⟩ := (counts_of_exec hwhole).readable ht
  refine ⟨⟨heard, hheard, fun requestId => ?_⟩,
    (stamped parseUrl).le ⟨hsound, hs⟩ hrun ⟨hsound', ht⟩,
    (stamped parseUrl).stamp_eq_iff ⟨hsound, hs⟩ hrun ⟨hsound', ht⟩⟩
  rw [hsum, mem_foldl_requestsAfter]

/-- Every URL is one of the backend. -/
def backendOnly : UrlParser := fun _ => some
  { protocol := "https:", origin := CHATGPT_ORIGIN, username := "", password := "",
    pathname := "/backend-api/x" }

/-- A request is sent while `Network.enable` is under way, and the session is ready. -/
def oneRequest : List ReadinessInput :=
  [.initializeReadinessObservation, .requestWillBeSent "a" "u", .enabled true]

/-- The law, over another request that begins and ends between two snapshots: the first one is still
under way, the other is not, and the epoch is higher. -/
theorem backend_activity_request :
    ∃ s t, Machine.exec (step backendOnly) {} oneRequest = some s ∧
      Machine.exec (step backendOnly) s [.requestWillBeSent "r" "u", .requestSettled "r"] = some t ∧
      (∃ heard,
        HeardSince (oneRequest ++ [.requestWillBeSent "r" "u", .requestSettled "r"]) heard ∧
        Underway backendOnly heard "a" ∧ ¬ Underway backendOnly heard "r") ∧
      s.activeRelevantRequestIds = t.activeRelevantRequestIds ∧
        s.activityEpoch < t.activityEpoch := by
  have hlaw := @backend_activity _ _ backendOnly oneRequest
    [.requestWillBeSent "r" "u", .requestSettled "r"] rfl ⟨rfl, rfl⟩ rfl ⟨rfl, rfl⟩
  obtain ⟨⟨heard, hheard, hrequests⟩, hle, hepoch⟩ := hlaw
  refine ⟨_, _, rfl, rfl, ⟨heard, hheard, (hrequests "a").mp (by decide), fun hr => ?_⟩,
    by decide, lt_of_le_of_ne hle fun heq => ?_⟩
  · exact absurd ((hrequests "r").mpr hr) (by decide)
  · have habsurd := hepoch.mp heq [.requestWillBeSent "r" "u"] [.requestSettled "r"] _ rfl rfl
    exact absurd habsurd (by decide)

/-- The session was read at this point of the run, and its epoch is that of the snapshot. -/
def ReadAt (parseUrl : UrlParser) (inputs : List ReadinessInput) (position : ℕ)
    (snapshot : ExistingReadinessSnapshot) : Prop :=
  ∃ u, Machine.exec (step parseUrl) {} (inputs.take position) = some u ∧ u.Readable ∧
    snapshot.activityEpoch = u.activityEpoch

/-- Between two points of one epoch, the requests are the same. -/
theorem quiet_between {inputs : List ReadinessInput} {lo hi p : ℕ} {snapshot snapshot' :
    ExistingReadinessSnapshot} (hlo : ReadAt parseUrl inputs lo snapshot)
    (hhi : ReadAt parseUrl inputs hi snapshot')
    (hepoch : snapshot.activityEpoch = snapshot'.activityEpoch) (hlop : lo ≤ p) (hphi : p ≤ hi)
    (hp : Machine.exec (step parseUrl) {} (inputs.take p) = some s)
    (ht : Machine.exec (step parseUrl) {} (inputs.take hi) = some t) :
    s.activeRelevantRequestIds = t.activeRelevantRequestIds := by
  obtain ⟨u, hu, hread, hepochu⟩ := hlo
  obtain ⟨t', ht', hread', hepocht⟩ := hhi
  cases ht.symm.trans ht'
  -- The run to a later point goes through the point at which the first snapshot was read.
  have hsplit : ∀ q, lo ≤ q → inputs.take q = inputs.take lo ++ (inputs.take q).drop lo := by
    intro q hq
    conv_lhs => rw [← List.take_append_drop lo (inputs.take q), List.take_take, Nat.min_eq_left hq]
  have hrest : ∀ {q v}, lo ≤ q → Machine.exec (step parseUrl) {} (inputs.take q) = some v →
      Machine.exec (step parseUrl) u ((inputs.take q).drop lo) = some v := by
    intro q v hq hv
    rw [hsplit q hq] at hv
    obtain ⟨u', hu', hv'⟩ := Machine.exec_append_eq_some.mp hv
    cases hu.symm.trans hu'
    exact hv'
  have hrun := hrest (hlop.trans hphi) ht
  have hsame : u.activityEpoch = t.activityEpoch := by
    exact_mod_cast (hepochu.symm.trans hepoch).trans hepocht
  have hquiet := ((stamped parseUrl).stamp_eq_iff ⟨sound_of_exec hu, hread⟩ hrun
    ⟨sound_of_exec ht, hread'⟩).mp hsame
  have hbefore : (inputs.take p).drop lo = ((inputs.take hi).drop lo).take (p - lo) := by
    rw [List.drop_take, List.drop_take, List.take_take, Nat.min_eq_left (by omega)]
  -- Both points lie between the two snapshots, whose stamps are equal.
  rw [hquiet _ (((inputs.take hi).drop lo).drop (p - lo)) s
    (by rw [hbefore, List.take_append_drop]) (hrest hlop hp)]
  exact (hquiet _ [] t (List.append_nil _).symm hrun).symm

end ReadinessObservation

namespace ReadinessController

open Effect ReadinessObservation

variable {r : ReadinessController} {createGate : GateFactory} {log : List ReadinessEvent}

/-- The policy of the gate that a wait has passed. -/
def gatePolicy (r : ReadinessController) (createGate : GateFactory) (log : List ReadinessEvent) :
    ExistingReadinessPolicy :=
  if createGate = .fresh ∨ .dismissed (.ok ()) ∈ log then r.freshPolicy.existingPolicy
  else r.existingPolicy

/-- The last snapshots are of one epoch. -/
theorem RouteReady.lastAll_epoch {snapshot : ExistingReadinessSnapshot}
    (h : RouteReady r createGate log snapshot) :
    List.LastAll (gatePolicy r createGate log).focusStableObservations
      (fun s => s.activityEpoch = snapshot.activityEpoch) (snapshots log) := by
  obtain ⟨since, ⟨⟨before, rfl, -⟩, -⟩, hready⟩ := h.ready
  have hlast : ∀ policy, InnerReady policy since snapshot →
      List.LastAll policy.focusStableObservations
        (fun s => s.activityEpoch = snapshot.activityEpoch) (snapshots (before ++ since)) := by
    rintro policy ⟨-, node, first, after, rfl, -, hfocus⟩
    rw [snapshots_append, snapshots_append]
    exact ((hfocus.mono fun s hs => hs.2).append_left _).append_left _
  rw [gatePolicy]
  split
  · next hfresh =>
    rw [if_pos hfresh] at hready
    exact hlast _ hready.1
  · next hexisting =>
    rw [if_neg hexisting] at hready
    exact hlast _ hready

/-- Whoever finds a route ready has read the session in a time in which no request to the backend
began or ended, as often as the policy demands. -/
theorem ready_while_quiet (r : ReadinessController) (hnul : ∀ question snapshot,
      r.environment.getReadinessSnapshot question = .ok snapshot → NulFree snapshot)
    (fuel : ℕ) (createGate : GateFactory) (expectedRoute : RouteExpectation) (signal : AbortTime)
    (run run' : ReadinessRun) (snapshot : ExistingReadinessSnapshot) (log : List ReadinessEvent)
    (hrun : waitForRoute r fuel createGate expectedRoute signal run = (.ok snapshot, run'))
    (hlog : run'.log = run.log ++ log) (parseUrl : UrlParser) (inputs : List ReadinessInput)
    (positions : List ℕ) (hread : List.Forall₂ (ReadAt parseUrl inputs) positions (snapshots log)) :
    ∃ earlier last, positions = earlier ++ last ∧
      last.length = (gatePolicy r createGate log).focusStableObservations ∧
      ∀ lo ∈ last, ∀ hi ∈ last, ∀ p, lo ≤ p → p ≤ hi → ∀ u v,
        Machine.exec (ReadinessObservation.step parseUrl) {} (inputs.take p) = some u →
          Machine.exec (ReadinessObservation.step parseUrl) {} (inputs.take hi) = some v →
            u.activeRelevantRequestIds = v.activeRelevantRequestIds := by
  have hspec := wp_apply (wp_waitForRoute hnul fuel createGate expectedRoute signal run)
  rw [hrun] at hspec
  obtain ⟨log', hlog', -, seen, fresh, rfl, hready⟩ := hspec
  have hlog' : run'.log = run.log ++ (seen ++ [.passed expectedRoute snapshot fresh]) := hlog'
  obtain rfl : log = seen ++ [.passed expectedRoute snapshot fresh] :=
    List.append_cancel_left (hlog.symm.trans hlog')
  have hsnapshots :
      snapshots (seen ++ [.passed expectedRoute snapshot fresh]) = snapshots seen := by
    rw [snapshots_append]
    exact List.append_nil _
  have hpolicy : gatePolicy r createGate (seen ++ [.passed expectedRoute snapshot fresh]) =
      gatePolicy r createGate seen := by
    simp [gatePolicy]
  rw [hsnapshots] at hread
  rw [hpolicy]
  -- The gate has seen the same epoch in each of the last snapshots.
  obtain ⟨init, last, hsplit, hlength, hepoch⟩ := hready.lastAll_epoch
  rw [hsplit] at hread
  have hdrop := List.forall₂_drop_append positions init last hread
  refine ⟨positions.take init.length, positions.drop init.length,
    (List.take_append_drop _ _).symm, hdrop.length_eq.trans hlength, ?_⟩
  intro lo hlo hi hhi p hlop hphi u v hu hv
  -- Each of the last positions belongs to one of the last snapshots.
  have hpaired : ∀ q ∈ positions.drop init.length, ∃ s, ReadAt parseUrl inputs q s ∧
      s.activityEpoch = snapshot.activityEpoch := by
    intro q hq
    obtain ⟨i, hi, rfl⟩ := List.mem_iff_getElem.mp hq
    have hi' : i < last.length := hdrop.length_eq ▸ hi
    exact ⟨last[i], hdrop.get hi hi', hepoch _ (List.getElem_mem hi')⟩
  obtain ⟨slo, hslo, hepochlo⟩ := hpaired lo hlo
  obtain ⟨shi, hshi, hepochhi⟩ := hpaired hi hhi
  exact quiet_between hslo hshi (hepochlo.trans hepochhi.symm) hlop hphi hu hv

/-- A page whose composer is focused when a request has ended. -/
def quietFrom (question : ℕ) : ReadinessController :=
  { focusedFrom question with
    environment := { (focusedFrom question).environment with
      getReadinessSnapshot := fun asked =>
        let focused := decide (question ≤ asked)
        .ok { composerPage focused with activityEpoch := if focused then 2 else 0 } } }

/-- A request comes and goes after the first two snapshots. -/
def quietInputs : List ReadinessInput :=
  [.initializeReadinessObservation, .enabled true, .requestWillBeSent "r" "u", .requestSettled "r"]

/-- The page is ready at its fourth snapshot. -/
theorem ready_while_quiet_request :
    ∃ earlier last, [2, 2, 4, 4] = earlier ++ last ∧ last.length = 2 ∧
      ∀ lo ∈ last, ∀ hi ∈ last, ∀ p, lo ≤ p → p ≤ hi → ∀ u v,
        Machine.exec (ReadinessObservation.step backendOnly) {} (quietInputs.take p) = some u →
          Machine.exec (ReadinessObservation.step backendOnly) {} (quietInputs.take hi) = some v →
            u.activeRelevantRequestIds = v.activeRelevantRequestIds := by
  have hsnapshots : snapshots (waitForRoute (quietFrom 5) 4 .existing .freshRoot none {}).2.log =
      [composerPage false, composerPage false, { composerPage true with activityEpoch := 2 },
        { composerPage true with activityEpoch := 2 }] := by
    decide +kernel
  have hread : List.Forall₂ (ReadAt backendOnly quietInputs) [2, 2, 4, 4]
      (snapshots (waitForRoute (quietFrom 5) 4 .existing .freshRoot none {}).2.log) := by
    rw [hsnapshots]
    have hfirst : ReadAt backendOnly quietInputs 2 (composerPage false) := ⟨_, rfl, ⟨rfl, rfl⟩, rfl⟩
    have hthen : ReadAt backendOnly quietInputs 4 { composerPage true with activityEpoch := 2 } :=
      ⟨_, rfl, ⟨rfl, rfl⟩, rfl⟩
    exact .cons hfirst (.cons hfirst (.cons hthen (.cons hthen .nil)))
  have hnul : ∀ question snapshot, (quietFrom 5).environment.getReadinessSnapshot question =
      .ok snapshot → NulFree snapshot := by
    rintro question _ ⟨⟩
    exact ⟨by simp [composerPage], by simp [composerPage]⟩
  have houtcome : (waitForRoute (quietFrom 5) 4 .existing .freshRoot none {}).1 =
      .ok { composerPage true with activityEpoch := 2 } := by
    decide +kernel
  have htwice : ∀ log, (gatePolicy (quietFrom 5) .existing log).focusStableObservations = 2 := by
    intro log
    rw [gatePolicy]
    split <;> rfl
  obtain ⟨earlier, last, hsplit, hlength, hquiet⟩ :=
    ready_while_quiet (quietFrom 5) hnul 4 .existing .freshRoot none {} _ _ _
      (Prod.ext houtcome rfl) rfl backendOnly quietInputs [2, 2, 4, 4] hread
  exact ⟨earlier, last, hsplit, hlength.trans (htwice _), hquiet⟩

end ReadinessController

end Threadwire
