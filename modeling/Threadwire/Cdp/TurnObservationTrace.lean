import Threadwire.Cdp.CdpTurnObservationTracker
import Threadwire.Machine.Trace
import Mathlib.Data.List.Induction
import Mathlib.Data.List.TakeWhile

/-!
# What a turn observation says about the trace

The closed form of the observation: which request of a trace is the write, whether it stayed the
only one, how it ended, and how many preparing requests there were. `turn_observation_trace` says
that an armed tracker computes it, after every trace.
-/

namespace Threadwire

namespace CdpTurnObservationTracker

open ObservationAction CdpWriteLifecycleState

/-! ## The closed form -/

namespace ObservationAction

/-- How a request is classified. -/
def kind (parseUrl : UrlParser) : ObservationAction → Option TurnRequestKind
  | .requestWillBeSent _ rawUrl method _ => classifyTurnRequest parseUrl rawUrl method
  | _ => none

/-- The id a request carries. -/
def requestId? : ObservationAction → Option RequestId
  | .requestWillBeSent requestId _ _ _ => some requestId
  | _ => none

/-- Whether a request follows a redirect. -/
def redirected : ObservationAction → Bool
  | .requestWillBeSent _ _ _ redirected => redirected
  | _ => false

/-- The status of a response for `r`. -/
def statusOf (r : RequestId) : ObservationAction → Option (Option Rat)
  | .responseReceived requestId status _ => if requestId = r then some status else none
  | _ => none

/-- Whether an event settles `r`. -/
def settles (r : RequestId) : ObservationAction → Bool
  | .requestSettled requestId _ => requestId == r
  | _ => false

/-- Whether a settling event is a failure. -/
def fails : ObservationAction → Bool
  | .requestSettled _ failed => failed
  | _ => false

end ObservationAction

variable (parseUrl : UrlParser)

/-- The first request that writes: its id and the trace after it. -/
def selection : List ObservationAction → Option (RequestId × List ObservationAction)
  | [] => none
  | a :: as =>
    if a.kind parseUrl = some .WRITE then a.requestId?.map fun r => (r, as) else selection as

/-- An event that makes the write `r` ambiguous, after the events `past`: another write, or `r`
again, unless it is redirected and has not settled. -/
def Unsafe (r : RequestId) (past : List ObservationAction) (a : ObservationAction) : Prop :=
  a.kind parseUrl = some .WRITE ∧ a.requestId? ≠ some r ∨
    a.requestId? = some r ∧ (a.redirected = false ∨ past.any (settles r) = true)

/-- An ambiguity arises after the write was selected. -/
def AmbiguousAfter (r : RequestId) (rest : List ObservationAction) : Prop :=
  ∃ past a future, rest = past ++ a :: future ∧ Unsafe parseUrl r past a

/-- An ambiguity arises in the trace. -/
def Ambiguous (trace : List ObservationAction) : Prop :=
  ∃ r rest, selection parseUrl trace = some (r, rest) ∧ AmbiguousAfter parseUrl r rest

/-- The events of `r` before it settles. -/
def leg (r : RequestId) (rest : List ObservationAction) : List ObservationAction :=
  rest.takeWhile fun a => !a.settles r

/-- Whether `r` was redirected. -/
def legRedirected (r : RequestId) (events : List ObservationAction) : Bool :=
  events.any fun a => a.requestId? == some r && a.redirected

/-- Whether the last response for `r` was a success. -/
def lastSuccessful (r : RequestId) (events : List ObservationAction) : Option Bool :=
  (events.filterMap (statusOf r)).getLast?.map isSuccessfulHttpStatus

/-- How the write `r` stands: settled successfully, settled in any other way, or active. -/
def writeLifecycle (r : RequestId) (rest : List ObservationAction) : CdpWriteLifecycleState :=
  match rest.find? (settles r) with
  | none => ACTIVE
  | some settlement =>
    if !settlement.fails && !legRedirected r (leg r rest) &&
        lastSuccessful r (leg r rest) == some true then FINISHED
    else FAILED

/-- Whether a request prepares a turn. -/
def prepares (a : ObservationAction) : Bool := a.kind parseUrl == some .PREPARE

/-- The number of preparing requests, but for those that carry the id of the selected write. -/
def prepareCount (trace : List ObservationAction) : ℕ :=
  match selection parseUrl trace with
  | none => trace.countP (prepares parseUrl)
  | some (r, rest) =>
    trace.countP (prepares parseUrl) -
      rest.countP fun a => prepares parseUrl a && a.requestId? == some r

/-! ## One more event -/

variable {parseUrl} {r : RequestId} {trace rest : List ObservationAction} {a : ObservationAction}

/-- The first write is selected, and the events after it are kept. -/
theorem selection_snoc (trace : List ObservationAction) (a : ObservationAction) :
    selection parseUrl (trace ++ [a]) =
      match selection parseUrl trace with
      | some (r, rest) => some (r, rest ++ [a])
      | none => if a.kind parseUrl = some .WRITE then a.requestId?.map fun r => (r, []) else none := by
  induction trace with
  | nil => rfl
  | cons b trace ih =>
    rw [List.cons_append, selection, selection]
    split
    · cases hb : b.requestId? with
      | some r => rfl
      | none =>
        rename_i hkind
        cases b <;> simp_all [kind, requestId?]
    · exact ih

/-- No ambiguity is that no event was unsafe. -/
theorem ambiguousAfter_iff :
    AmbiguousAfter parseUrl r rest ↔
      ¬ Trace.Lawful (fun past a => ¬ Unsafe parseUrl r past a) rest := by
  simp only [AmbiguousAfter, Trace.Lawful, not_forall, not_not, exists_prop]

/-- One event more is unsafe, or was before. -/
theorem ambiguousAfter_snoc :
    AmbiguousAfter parseUrl r (rest ++ [a]) ↔
      AmbiguousAfter parseUrl r rest ∨ Unsafe parseUrl r rest a := by
  rw [ambiguousAfter_iff, ambiguousAfter_iff, Trace.lawful_snoc, not_and_or, not_not]

/-- A redirect of the write's own leg. -/
theorem legRedirected_snoc :
    legRedirected r (rest ++ [a]) =
      (legRedirected r rest || (a.requestId? == some r && a.redirected)) := by
  simp [legRedirected]

/-- The last response counts. -/
theorem lastSuccessful_snoc :
    lastSuccessful r (rest ++ [a]) =
      match a.statusOf r with
      | some status => some (isSuccessfulHttpStatus status)
      | none => lastSuccessful r rest := by
  rw [lastSuccessful, List.filterMap_append]
  cases h : a.statusOf r with
  | none => simp [h, lastSuccessful]
  | some status => simp [h]

/-- A write that has not settled is active. -/
theorem writeLifecycle_of_active (hactive : rest.any (settles r) = false) :
    writeLifecycle r rest = ACTIVE := by
  have hnone : rest.find? (settles r) = none := by
    rw [List.find?_eq_none]
    exact List.any_eq_false.mp hactive
  rw [writeLifecycle, hnone]

/-- A write that has settled is not. -/
theorem writeLifecycle_of_settled (hsettled : rest.any (settles r) = true) :
    writeLifecycle r rest ≠ ACTIVE := by
  obtain ⟨settlement, hfind⟩ : ∃ settlement, rest.find? (settles r) = some settlement := by
    rw [← Option.isSome_iff_exists, List.find?_isSome]
    simpa using hsettled
  rw [writeLifecycle, hfind]
  dsimp only
  split <;> simp

/-- Nothing changes after `r` has settled. -/
theorem writeLifecycle_snoc_of_settled (hsettled : rest.any (settles r) = true) :
    writeLifecycle r (rest ++ [a]) = writeLifecycle r rest := by
  have hleg : leg r (rest ++ [a]) = leg r rest := by
    obtain ⟨b, hb, hsettles⟩ := List.any_eq_true.mp hsettled
    rw [leg, List.takeWhile_append, if_neg]
    · rfl
    · intro hlength
      have hall := List.takeWhile_eq_self_iff.mp
        ((List.takeWhile_prefix _).eq_of_length hlength) b hb
      simp [hsettles] at hall
  rw [writeLifecycle, writeLifecycle, hleg, List.find?_append]
  obtain ⟨settlement, hfind⟩ : ∃ settlement, rest.find? (settles r) = some settlement := by
    rw [← Option.isSome_iff_exists, List.find?_isSome]
    simpa using hsettled
  rw [hfind]
  rfl

/-- How `r` settles. -/
theorem writeLifecycle_snoc_settles (hactive : rest.any (settles r) = false)
    (hsettles : a.settles r = true) :
    writeLifecycle r (rest ++ [a]) =
      if !a.fails && !legRedirected r rest && lastSuccessful r rest == some true then FINISHED
      else FAILED := by
  have hnone : rest.find? (settles r) = none := by
    rw [List.find?_eq_none]
    exact List.any_eq_false.mp hactive
  have hleg : leg r (rest ++ [a]) = rest := by
    rw [leg, List.takeWhile_append_of_pos (fun b hb => by
      simpa using List.any_eq_false.mp hactive b hb)]
    simp [hsettles]
  rw [writeLifecycle, List.find?_append, hnone, hleg]
  simp [hsettles]

/-! ## The invariant -/

/-- A response tracker that is out of use and holds no events. -/
def Silent (t : CdpResponseStreamTracker) : Prop := t.disposed = true ∧ t.consumer = none

/-- The observation after the write `r` was selected and the events `rest`. -/
structure Tracks (parseUrl : UrlParser) (r : RequestId) (rest : List ObservationAction)
    (o : ActiveTurnObservation) : Prop where
  selected : o.writeRequestId = some r
  ambiguous : o.ambiguousWrite = true ↔ AmbiguousAfter parseUrl r rest
  active : rest.any (settles r) = false →
    o.lifecycle = some ACTIVE ∧ o.selectedLegRedirected = legRedirected r rest ∧
      (legRedirected r rest = false → o.successfulResponseObserved = lastSuccessful r rest)
  settled : rest.any (settles r) = true → o.lifecycle = some (writeLifecycle r rest)

/-- The observation before any write. -/
structure Untouched (o : ActiveTurnObservation) : Prop where
  selected : o.writeRequestId = none
  unambiguous : o.ambiguousWrite = false

/-! ## Steps -/

variable {handle : CdpTurnObservationHandle} {o o' : ActiveTurnObservation} {limits : ConsumerLimits}

variable (parseUrl r rest) in
/-- A request is unsafe where it is another write, or the same one again. -/
theorem unsafe_iff_of_request {requestId : RequestId} (h : a.requestId? = some requestId) :
    Unsafe parseUrl r rest a ↔
      a.kind parseUrl = some .WRITE ∧ requestId ≠ r ∨
        requestId = r ∧ (a.redirected = false ∨ rest.any (settles r) = true) := by
  rw [Unsafe, h, Option.some.injEq, ne_eq, Option.some.injEq]

/-- Other events are safe. -/
theorem not_unsafe_of_no_request (h : a.requestId? = none) : ¬ Unsafe parseUrl r rest a := by
  rintro (⟨hkind, -⟩ | ⟨hrequest, -⟩)
  · cases a <;> simp [kind, requestId?] at hkind h
  · rw [h] at hrequest
    cases hrequest

/-- An event that is no request, no settlement of `r` and no response that counts: only the
response tracker may change. -/
theorem Tracks.snoc_neutral (h : Tracks parseUrl r rest o) (hsafe : ¬ Unsafe parseUrl r rest a)
    (hsettles : a.settles r = false)
    (hredirected : (a.requestId? == some r && a.redirected) = false)
    (hstatus : a.statusOf r ≠ none → o.lifecycle ≠ some ACTIVE ∨ o.selectedLegRedirected = true)
    (hfields : o'.writeRequestId = o.writeRequestId ∧ o'.ambiguousWrite = o.ambiguousWrite ∧
      o'.lifecycle = o.lifecycle ∧ o'.selectedLegRedirected = o.selectedLegRedirected ∧
      o'.successfulResponseObserved = o.successfulResponseObserved) :
    Tracks parseUrl r (rest ++ [a]) o' := by
  obtain ⟨hselected, hambiguous, hlifecycle, hleg, hsuccess⟩ := hfields
  refine ⟨hselected.trans h.selected, ?_, fun hactive => ?_, fun hsettled => ?_⟩
  · rw [hambiguous, ambiguousAfter_snoc, h.ambiguous, or_iff_left hsafe]
  · obtain ⟨hactive', hredirected', hlast⟩ := h.active (by simpa [hsettles] using hactive)
    rw [legRedirected_snoc, hredirected, Bool.or_false, lastSuccessful_snoc]
    refine ⟨hlifecycle.trans hactive', hleg.trans hredirected', fun hopen => ?_⟩
    cases hcounts : a.statusOf r with
    | none => exact hsuccess.trans (hlast hopen)
    | some status =>
      rcases hstatus (by simp [hcounts]) with hended | hgone
      · exact absurd hactive' hended
      · rw [hredirected', hopen] at hgone
        cases hgone
  · have hsettled' : rest.any (settles r) = true := by simpa [hsettles] using hsettled
    rw [writeLifecycle_snoc_of_settled hsettled', hlifecycle]
    exact h.settled hsettled'

/-- An event that makes the write ambiguous. -/
theorem Tracks.snoc_unsafe (h : Tracks parseUrl r rest o) (hnotsafe : Unsafe parseUrl r rest a)
    (hredirected : rest.any (settles r) = false → (a.requestId? == some r && a.redirected) = false)
    (hrequest : a.requestId? ≠ none) : Tracks parseUrl r (rest ++ [a]) o.becomeAmbiguous := by
  have hsettles : a.settles r = false := by cases a <;> simp_all [settles, requestId?]
  have hstatus : a.statusOf r = none := by cases a <;> simp_all [statusOf, requestId?]
  refine ⟨h.selected, ?_, fun hactive => ?_, fun hsettled => ?_⟩
  · rw [ambiguousAfter_snoc]
    exact ⟨fun _ => .inr hnotsafe, fun _ => rfl⟩
  · have hactive' : rest.any (settles r) = false := by simpa [hsettles] using hactive
    obtain ⟨hlifecycle, hleg, hlast⟩ := h.active hactive'
    rw [legRedirected_snoc, hredirected hactive', Bool.or_false, lastSuccessful_snoc, hstatus]
    exact ⟨hlifecycle, hleg, hlast⟩
  · have hsettled' : rest.any (settles r) = true := by simpa [hsettles] using hsettled
    rw [writeLifecycle_snoc_of_settled hsettled']
    exact h.settled hsettled'

/-- The lifecycle is `ACTIVE` as long as `r` has not settled. -/
theorem Tracks.active_iff (h : Tracks parseUrl r rest o) :
    o.lifecycle = some ACTIVE ↔ rest.any (settles r) = false := by
  constructor
  · intro hactive
    by_contra hsettled
    rw [Bool.not_eq_false] at hsettled
    rw [h.settled hsettled, Option.some.injEq] at hactive
    exact writeLifecycle_of_settled hsettled hactive
  · exact fun hactive => (h.active hactive).1

/-- A request after the write was selected. -/
theorem Tracks.onRequestWillBeSent (h : Tracks parseUrl r rest o) (requestId : RequestId)
    (rawUrl : String) (method : Option String) (redirected : Bool) :
    Tracks parseUrl r (rest ++ [.requestWillBeSent requestId rawUrl method redirected])
      (o.onRequestWillBeSent parseUrl requestId rawUrl method redirected) := by
  have hnotsafe := unsafe_iff_of_request parseUrl r rest
    (a := .requestWillBeSent requestId rawUrl method redirected) rfl
  unfold ActiveTurnObservation.onRequestWillBeSent
  -- the write's own request comes again: that is safe only as a redirect of a leg that has not
  -- settled
  by_cases hr : r = requestId
  · subst hr
    rw [if_pos h.selected]
    split
    · rename_i hended
      have hsettled : rest.any (settles r) = true := by
        rw [← Bool.not_eq_false, ← h.active_iff]
        exact hended
      refine h.snoc_unsafe (hnotsafe.mpr (.inr ⟨rfl, .inr hsettled⟩)) (fun hactive => ?_)
        (by simp [requestId?])
      rw [hsettled] at hactive
      cases hactive
    rename_i hactive
    rw [ne_eq, not_not, h.active_iff] at hactive
    split
    · rename_i hplain
      have hplain' : redirected = false := by simpa using hplain
      refine h.snoc_unsafe (hnotsafe.mpr (.inr ⟨rfl, .inl hplain'⟩)) (fun _ => ?_) (by simp [requestId?])
      simp [ObservationAction.redirected, hplain']
    · rename_i hfollows
      have hfollows' : redirected = true := by simpa using hfollows
      have hsafe : ¬ Unsafe parseUrl r rest (.requestWillBeSent r rawUrl method redirected) := by
        rw [hnotsafe]
        rintro (⟨-, hne⟩ | ⟨-, hplain | hsettled⟩)
        · exact hne rfl
        · exact absurd hplain (by simp [ObservationAction.redirected, hfollows'])
        · rw [hactive] at hsettled
          cases hsettled
      refine ⟨h.selected, ?_, fun _ => ⟨(h.active hactive).1, ?_, fun hopen => ?_⟩,
        fun hsettled => ?_⟩
      · rw [ambiguousAfter_snoc, or_iff_left hsafe]
        exact h.ambiguous
      · simp [legRedirected_snoc, requestId?, ObservationAction.redirected, hfollows',
          ActiveTurnObservation.onResponse]
      · simp [legRedirected_snoc, requestId?, ObservationAction.redirected, hfollows'] at hopen
      · simp [settles, hactive] at hsettled
  · rw [if_neg (by rw [h.selected]; simpa using hr)]
    have hredirected : ((ObservationAction.requestWillBeSent requestId rawUrl method
        redirected).requestId? == some r &&
        (ObservationAction.requestWillBeSent requestId rawUrl method redirected).redirected) =
          false := by
      simp [requestId?, Ne.symm hr]
    have hkind : ∀ kind, classifyTurnRequest parseUrl rawUrl method = kind →
        kind ≠ some .WRITE →
        ¬ Unsafe parseUrl r rest (.requestWillBeSent requestId rawUrl method redirected) := by
      rintro kind hclass hother
      rw [hnotsafe]
      rintro (⟨hwrite, -⟩ | ⟨hsame, -⟩)
      · exact hother (hclass.symm.trans hwrite)
      · exact hr hsame.symm
    split
    · rename_i hclass
      exact h.snoc_neutral (hkind _ hclass (by simp)) rfl hredirected (fun hne => absurd rfl hne)
        ⟨rfl, rfl, rfl, rfl, rfl⟩
    · rename_i hclass
      exact h.snoc_neutral (hkind _ hclass (by simp)) rfl hredirected (fun hne => absurd rfl hne)
        ⟨rfl, rfl, rfl, rfl, rfl⟩
    · rename_i hclass
      rw [if_neg (by simp [h.selected])]
      exact h.snoc_unsafe (hnotsafe.mpr (.inl ⟨hclass, Ne.symm hr⟩)) (fun _ => hredirected)
        (by simp [requestId?])

/-- A response. -/
theorem Tracks.onResponseReceived (h : Tracks parseUrl r rest o) (requestId : RequestId)
    (status : Option Rat) (network : StreamResourceContent) :
    Tracks parseUrl r (rest ++ [.responseReceived requestId status network])
      (o.onResponseReceived requestId status network) := by
  have hsafe : ¬ Unsafe parseUrl r rest (.responseReceived requestId status network) :=
    not_unsafe_of_no_request rfl
  unfold ActiveTurnObservation.onResponseReceived
  split
  · rename_i hignored
    refine h.snoc_neutral hsafe rfl rfl (fun hcounts => ?_) ⟨rfl, rfl, rfl, rfl, rfl⟩
    -- What is ignored is of another request, or comes after the end of the leg.
    rcases hignored with hother | hended | hgone
    · have hr : requestId ≠ r := by
        rintro rfl
        exact hother h.selected
      simp [statusOf, hr] at hcounts
    · exact .inl hended
    · exact .inr hgone
  · rename_i hcounts
    simp only [not_or, not_not, h.selected, Option.some.injEq, Bool.not_eq_true] at hcounts
    obtain ⟨rfl, hactive, hopen⟩ := hcounts
    have htracks : ∀ response, Tracks parseUrl r
        (rest ++ [.responseReceived r status network])
        { o with
          successfulResponseObserved := some (isSuccessfulHttpStatus status)
          response } := by
      intro response
      have hunsettled := h.active_iff.mp hactive
      obtain ⟨-, hleg, -⟩ := h.active hunsettled
      refine ⟨h.selected, ?_, fun _ => ⟨hactive, ?_, fun _ => ?_⟩, fun hsettled => ?_⟩
      · rw [ambiguousAfter_snoc, or_iff_left hsafe]
        exact h.ambiguous
      · rw [legRedirected_snoc]
        simpa [requestId?] using hleg
      · simp [lastSuccessful_snoc, statusOf]
      · simp [settles, hunsettled] at hsettled
    dsimp only
    split
    · exact htracks _
    · exact htracks _

/-- A settlement. -/
theorem Tracks.onRequestSettled (h : Tracks parseUrl r rest o) (requestId : RequestId)
    (failed : Bool) :
    Tracks parseUrl r (rest ++ [.requestSettled requestId failed])
      (o.onRequestSettled limits requestId failed) := by
  have hsafe : ¬ Unsafe parseUrl r rest (.requestSettled requestId failed) :=
    not_unsafe_of_no_request rfl
  unfold ActiveTurnObservation.onRequestSettled
  split
  · rename_i hignored
    -- The leg was settled before, or this is of another request.
    by_cases hr : requestId = r
    · subst hr
      have hsettled : rest.any (settles requestId) = true := by
        rcases hignored with hother | hended
        · exact absurd h.selected hother
        · rw [← Bool.not_eq_false, ← h.active_iff]
          exact hended
      refine ⟨h.selected, ?_, fun hactive => ?_, fun _ => ?_⟩
      · rw [ambiguousAfter_snoc, or_iff_left hsafe]
        exact h.ambiguous
      · simp [hsettled] at hactive
      · rw [writeLifecycle_snoc_of_settled hsettled]
        exact h.settled hsettled
    · exact h.snoc_neutral hsafe (by simp [settles, hr]) rfl (fun hne => absurd rfl hne)
        ⟨rfl, rfl, rfl, rfl, rfl⟩
  · rename_i hcounts
    simp only [not_or, not_not, h.selected, Option.some.injEq] at hcounts
    obtain ⟨rfl, hactive⟩ := hcounts
    have hunsettled := h.active_iff.mp hactive
    obtain ⟨-, hleg, hlast⟩ := h.active hunsettled
    -- This settles the leg: what it says is what the last response said, unless it was redirected
    -- or failed.
    refine ⟨h.selected, ?_, fun hactive' => ?_, fun _ => ?_⟩
    · rw [ambiguousAfter_snoc, or_iff_left hsafe]
      exact h.ambiguous
    · simp [settles] at hactive'
    · rw [writeLifecycle_snoc_settles hunsettled (by simp [settles])]
      simp only [ActiveTurnObservation.onResponse, fails, hleg]
      cases failed with
      | true => rfl
      | false =>
        cases hredirected : legRedirected r rest with
        | true => rfl
        | false =>
          rw [hlast hredirected]
          cases lastSuccessful r rest with
          | none => rfl
          | some successful => cases successful <;> rfl

/-! ## The response tracker after an ambiguity -/

open CdpResponseStreamTracker in
/-- A silent tracker stays silent, and nothing is drained from it. -/
theorem Silent.step {run run' : TrackerRun} {action : TrackerAction} (h : Silent run.tracker)
    (hstep : run.step limits action = some run') :
    Silent run'.tracker ∧ run'.drained = run.drained := by
  obtain ⟨hdisposed, hconsumer⟩ := h
  -- A disposed tracker knows no request as its own.
  have hcurrent : ∀ requestId, run.tracker.isCurrent requestId = false := by
    simp [CdpResponseStreamTracker.isCurrent, hdisposed]
  have hsame : ∀ t : CdpResponseStreamTracker, t = run.tracker →
      Silent t ∧ run.drained = run.drained := by
    rintro t rfl
    exact ⟨⟨hdisposed, hconsumer⟩, rfl⟩
  cases action with
  | select requestId =>
    cases hstep
    exact hsame _ (by simp [CdpResponseStreamTracker.select, hdisposed])
  | begin requestId network =>
    cases hstep
    exact hsame _ (by simp [CdpResponseStreamTracker.begin, hcurrent])
  | data requestId data =>
    cases hstep
    exact hsame _ (by cases data <;> simp [onData, hcurrent])
  | settled requestId failed =>
    cases hstep
    exact hsame _ (by simp [onTransportSettled, hcurrent])
  | activated requestId bufferedData =>
    simp only [TrackerRun.step, Option.ite_none_right_eq_some, Option.some.injEq] at hstep
    obtain ⟨-, rfl⟩ := hstep
    refine ⟨?_, rfl⟩
    simp only [completeActivation]
    rw [if_pos (by simp [CdpResponseStreamTracker.isCurrent, hdisposed])]
    exact ⟨hdisposed, hconsumer⟩
  | activationRejected requestId =>
    simp only [TrackerRun.step, Option.ite_none_right_eq_some, Option.some.injEq] at hstep
    obtain ⟨-, rfl⟩ := hstep
    refine ⟨?_, rfl⟩
    simp only [rejectActivation]
    rw [if_neg (by simp [CdpResponseStreamTracker.isCurrent, hdisposed])]
    exact ⟨hdisposed, hconsumer⟩
  | drain =>
    cases hstep
    simp [hconsumer, Silent, hdisposed]
  | fail failure =>
    cases hstep
    exact hsame _ (by simp [CdpResponseStreamTracker.fail, hdisposed])
  | discard =>
    cases hstep
    exact hsame _ (by simp [CdpResponseStreamTracker.discard, hdisposed])
  | dispose =>
    cases hstep
    exact ⟨⟨rfl, rfl⟩, rfl⟩

/-- After an ambiguity the response tracker, if there is one, is silent. -/
def Hushed (o : ActiveTurnObservation) : Prop :=
  o.ambiguousWrite = true → ∀ t ∈ o.response, Silent t

/-- An ambiguity hushes the response. -/
theorem hushed_becomeAmbiguous (o : ActiveTurnObservation) : Hushed o.becomeAmbiguous := by
  rintro - t ht
  simp only [ActiveTurnObservation.becomeAmbiguous, ActiveTurnObservation.onResponse,
    Option.mem_def, Option.map_eq_some_iff] at ht
  obtain ⟨response, -, rfl⟩ := ht
  exact ⟨rfl, rfl⟩

variable (limits) in
open CdpResponseStreamTracker in
/-- Calling a method of the response tracker. -/
theorem Hushed.onResponse (h : Hushed o) (action : TrackerAction)
    {f : CdpResponseStreamTracker → CdpResponseStreamTracker}
    (hf : ∀ t, ∃ drained, TrackerRun.step limits { tracker := t } action =
      some { tracker := f t, drained }) :
    Hushed (o.onResponse f) := by
  intro hambiguous t ht
  simp only [ActiveTurnObservation.onResponse, Option.mem_def, Option.map_eq_some_iff] at ht
  obtain ⟨response, hresponse, rfl⟩ := ht
  obtain ⟨drained, hstep⟩ := hf response
  exact ((h hambiguous response hresponse).step hstep).1

/-! ## Whole traces -/

/-- The events after the selection are the last of the trace. -/
theorem selection_suffix (h : selection parseUrl trace = some (r, rest)) : rest <:+ trace := by
  induction trace with
  | nil => cases h
  | cons a trace ih =>
    rw [selection] at h
    split at h
    · obtain ⟨_, -, heq⟩ := Option.map_eq_some_iff.mp h
      cases heq
      exact List.suffix_cons _ _
    · exact (ih h).trans (List.suffix_cons _ _)

/-- One more event counts if it prepares, and does not carry the id of the selected write. -/
theorem prepareCount_snoc (trace : List ObservationAction) (a : ObservationAction) :
    prepareCount parseUrl (trace ++ [a]) =
      prepareCount parseUrl trace +
        if prepares parseUrl a && (selection parseUrl trace).all fun selected =>
          a.requestId? != some selected.1 then 1 else 0 := by
  rw [prepareCount, prepareCount, selection_snoc]
  cases hselection : selection parseUrl trace with
  | none =>
    by_cases hwrite : a.kind parseUrl = some .WRITE
    · have hnot : prepares parseUrl a = false := by simp [prepares, hwrite]
      cases a.requestId? <;> simp [hwrite, hnot]
    · by_cases hprepares : prepares parseUrl a = true <;> simp [hwrite, hprepares]
  | some selected =>
    obtain ⟨r, rest⟩ := selected
    have hle : (rest.countP fun a => prepares parseUrl a && a.requestId? == some r) ≤
        trace.countP (prepares parseUrl) := by
      refine Nat.le_trans ?_ (selection_suffix hselection).sublist.countP_le
      refine List.countP_mono_left fun a _ ha => ?_
      exact (Bool.and_eq_true_iff.mp ha).1
    simp only [List.countP_append, List.countP_singleton]
    by_cases hprepares : prepares parseUrl a = true
    · by_cases hrequest : a.requestId? = some r
      · simp [hprepares, hrequest]
      · simp [hprepares, hrequest]
        omega
    · simp [hprepares]

/-- A preparation is counted unless it carries the id of the write. -/
theorem onRequestWillBeSent_prepareCount (o : ActiveTurnObservation) (requestId : RequestId)
    (rawUrl : String) (method : Option String) (redirected : Bool) :
    (o.onRequestWillBeSent parseUrl requestId rawUrl method redirected).prepareCount =
      o.prepareCount + if o.writeRequestId ≠ some requestId ∧
        classifyTurnRequest parseUrl rawUrl method = some .PREPARE then 1 else 0 := by
  unfold ActiveTurnObservation.onRequestWillBeSent
  by_cases hr : o.writeRequestId = some requestId
  · rw [if_pos hr]
    simp only [hr, ne_eq, not_true_eq_false, false_and, if_false, Nat.add_zero]
    split
    · rfl
    split <;> rfl
  · rw [if_neg hr]
    cases hkind : classifyTurnRequest parseUrl rawUrl method with
    | none => simp
    | some kind =>
      cases kind with
      | PREPARE => simp [hr]
      | WRITE =>
        rw [if_neg (c := o.writeRequestId ≠ some requestId ∧ _) (by simp)]
        dsimp only
        split <;> rfl

/-- The observation of the write, after a trace. -/
def Writes (parseUrl : UrlParser) (trace : List ObservationAction) (o : ActiveTurnObservation) :
    Prop :=
  match selection parseUrl trace with
  | none => Untouched o
  | some (r, rest) => Tracks parseUrl r rest o

/-- The observation after a trace. -/
structure Follows (parseUrl : UrlParser) (handle : CdpTurnObservationHandle)
    (trace : List ObservationAction) (o : ActiveTurnObservation) : Prop where
  handle_eq : o.handle = handle
  write : Writes parseUrl trace o
  count : o.prepareCount = prepareCount parseUrl trace
  hushed : Hushed o

/-- An event that is not a request. -/
theorem Writes.snoc (h : Writes parseUrl trace o) (hrequest : a.requestId? = none)
    (huntouched : Untouched o → Untouched o')
    (htracks : ∀ r rest, Tracks parseUrl r rest o → Tracks parseUrl r (rest ++ [a]) o') :
    Writes parseUrl (trace ++ [a]) o' := by
  have hkind : a.kind parseUrl ≠ some .WRITE := by cases a <;> simp_all [kind, requestId?]
  unfold Writes at h ⊢
  rw [selection_snoc]
  cases hselection : selection parseUrl trace with
  | none =>
    simp only [hselection] at h
    simp only [hkind, if_false]
    exact huntouched h
  | some selected =>
    simp only [hselection] at h
    exact htracks _ _ h

/-- A request. -/
theorem Writes.onRequestWillBeSent (h : Writes parseUrl trace o) (requestId : RequestId)
    (rawUrl : String) (method : Option String) (redirected : Bool) :
    Writes parseUrl (trace ++ [.requestWillBeSent requestId rawUrl method redirected])
      (o.onRequestWillBeSent parseUrl requestId rawUrl method redirected) := by
  unfold Writes at h ⊢
  rw [selection_snoc]
  cases hselection : selection parseUrl trace with
  | some selected =>
    simp only [hselection] at h
    exact h.onRequestWillBeSent requestId rawUrl method redirected
  | none =>
    simp only [hselection] at h
    simp only [kind, requestId?, Option.map_some]
    unfold ActiveTurnObservation.onRequestWillBeSent
    rw [if_neg (by simp [h.selected])]
    have hcases : classifyTurnRequest parseUrl rawUrl method = none ∨
        classifyTurnRequest parseUrl rawUrl method = some .PREPARE ∨
          classifyTurnRequest parseUrl rawUrl method = some .WRITE := by
      rcases classifyTurnRequest parseUrl rawUrl method with _ | ⟨_ | _⟩ <;> simp
    rcases hcases with hkind | hkind | hkind <;>
      simp only [hkind, reduceCtorEq, Option.some.injEq, if_false, if_true]
    · exact h
    · exact ⟨h.selected, h.unambiguous⟩
    · rw [if_pos h.selected]
      refine ⟨rfl, ?_, fun _ => ⟨rfl, rfl, fun _ => rfl⟩, fun hsettled => nomatch hsettled⟩
      constructor
      · intro hambiguous
        cases h.unambiguous.symm.trans hambiguous
      · rintro ⟨past, a, future, hsplit, -⟩
        simp at hsplit

/-- An event that is not a request and changes no count. -/
theorem Follows.snoc (h : Follows parseUrl handle trace o) (hrequest : a.requestId? = none)
    (hhandle : o'.handle = o.handle) (hcount : o'.prepareCount = o.prepareCount)
    (huntouched : Untouched o → Untouched o')
    (htracks : ∀ r rest, Tracks parseUrl r rest o → Tracks parseUrl r (rest ++ [a]) o')
    (hhushed : Hushed o') : Follows parseUrl handle (trace ++ [a]) o' := by
  have hprepares : prepares parseUrl a = false := by
    cases a <;> simp_all [prepares, kind, requestId?]
  refine ⟨hhandle.trans h.handle_eq, h.write.snoc hrequest huntouched htracks, ?_, hhushed⟩
  rw [hcount, h.count, prepareCount_snoc, hprepares]
  simp

/-- The response is not what was touched. -/
theorem Untouched.of_response (h : Untouched o) (response : Option CdpResponseStreamTracker) :
    Untouched { o with response } :=
  ⟨h.selected, h.unambiguous⟩

/-- An event that reaches the response tracker only. -/
theorem Follows.respond (h : Follows parseUrl handle trace o) (hrequest : a.requestId? = none)
    (hstatus : ∀ r, a.statusOf r = none) (hsettles : ∀ r, a.settles r = false)
    {response : Option CdpResponseStreamTracker} (hhushed : Hushed { o with response }) :
    Follows parseUrl handle (trace ++ [a]) { o with response } := by
  refine h.snoc hrequest rfl rfl (fun h => h.of_response response) (fun r rest h => ?_) hhushed
  exact h.snoc_neutral (not_unsafe_of_no_request hrequest) (hsettles r) (by simp [hrequest])
    (fun hne => absurd (hstatus r) hne) ⟨rfl, rfl, rfl, rfl, rfl⟩

/-- A request selects the write, counts as a preparation, or belongs to the leg. -/
theorem Follows.onRequestWillBeSent (h : Follows parseUrl handle trace o) (requestId : RequestId)
    (rawUrl : String) (method : Option String) (redirected : Bool) :
    Follows parseUrl handle (trace ++ [.requestWillBeSent requestId rawUrl method redirected])
      (o.onRequestWillBeSent parseUrl requestId rawUrl method redirected) := by
  refine ⟨?_, h.write.onRequestWillBeSent requestId rawUrl method redirected, ?_, ?_⟩
  · unfold ActiveTurnObservation.onRequestWillBeSent
    repeat' split
    all_goals exact h.handle_eq
  · -- The tracker holds the request that the trace selects.
    have hselected : o.writeRequestId = (selection parseUrl trace).map Prod.fst := by
      have hwrite := h.write
      unfold Writes at hwrite
      cases hselection : selection parseUrl trace with
      | none =>
        simp only [hselection] at hwrite
        exact hwrite.selected
      | some selected =>
        simp only [hselection] at hwrite
        exact hwrite.selected
    rw [onRequestWillBeSent_prepareCount, prepareCount_snoc, h.count, hselected]
    -- The request counts where the trace counts it: as a preparation that is not the selected
    -- request.
    have hcount : (o.writeRequestId ≠ some requestId ∧
        classifyTurnRequest parseUrl rawUrl method = some .PREPARE) ↔
        (prepares parseUrl (.requestWillBeSent requestId rawUrl method redirected) &&
          (selection parseUrl trace).all fun selected =>
            (ObservationAction.requestWillBeSent requestId rawUrl method redirected).requestId? !=
              some selected.1) = true := by
      rw [hselected]
      cases selection parseUrl trace with
      | none => simp [prepares, kind]
      | some selected =>
        simp only [Option.map_some, ne_eq, Option.some.injEq, prepares, kind, requestId?,
          Option.all_some, Bool.and_eq_true, beq_iff_eq, bne_iff_ne]
        exact ⟨fun ⟨hne, hkind⟩ => ⟨hkind, Ne.symm hne⟩, fun ⟨hkind, hne⟩ => ⟨Ne.symm hne, hkind⟩⟩
    rw [← hselected]
    simp only [hcount]
  · unfold ActiveTurnObservation.onRequestWillBeSent
    -- Either the selected leg goes on, or is redirected, or the write has become ambiguous.
    split
    · split
      · exact hushed_becomeAmbiguous o
      split
      · exact hushed_becomeAmbiguous o
      · exact Hushed.onResponse {}
          (o := { o with selectedLegRedirected := true, successfulResponseObserved := some false })
          h.hushed (.fail .INCOMPLETE) fun t => ⟨[], rfl⟩
    · split
      · exact h.hushed
      · exact h.hushed
      split
      · exact Hushed.onResponse {}
          (o := { o with
            writeRequestId := some requestId
            successfulResponseObserved := none
            selectedLegRedirected := false
            lifecycle := some .ACTIVE })
          h.hushed (.select requestId) fun t => ⟨[], rfl⟩
      · exact hushed_becomeAmbiguous o

/-- A response belongs to the leg, or to nothing. -/
theorem Follows.onResponseReceived (h : Follows parseUrl handle trace o) (requestId : RequestId)
    (status : Option Rat) (network : StreamResourceContent) :
    Follows parseUrl handle (trace ++ [.responseReceived requestId status network])
      (o.onResponseReceived requestId status network) := by
  have hopen : o.onResponseReceived requestId status network = o ∨
      ∃ response, o.onResponseReceived requestId status network =
        { o with
          successfulResponseObserved := some (isSuccessfulHttpStatus status), response } := by
    unfold ActiveTurnObservation.onResponseReceived
    split
    · exact .inl rfl
    · dsimp only
      split
      · exact .inr ⟨_, rfl⟩
      · exact .inr ⟨_, rfl⟩
  refine h.snoc rfl ?_ ?_ (fun huntouched => ?_)
    (fun r rest htracks => htracks.onResponseReceived requestId status network) ?_
  · rcases hopen with heq | ⟨_, heq⟩ <;> rw [heq]
  · rcases hopen with heq | ⟨_, heq⟩ <;> rw [heq]
  · rcases hopen with heq | ⟨_, heq⟩ <;> rw [heq] <;>
      exact ⟨huntouched.selected, huntouched.unambiguous⟩
  · unfold ActiveTurnObservation.onResponseReceived
    split
    · exact h.hushed
    dsimp only
    split
    · exact Hushed.onResponse {}
        (o := { o with successfulResponseObserved := some (isSuccessfulHttpStatus status) })
        h.hushed (.begin requestId network) fun t => ⟨[], rfl⟩
    · exact h.hushed

/-- A request settles. -/
theorem Follows.onRequestSettled (h : Follows parseUrl handle trace o) (requestId : RequestId)
    (failed : Bool) :
    Follows parseUrl handle (trace ++ [.requestSettled requestId failed])
      (o.onRequestSettled limits requestId failed) := by
  refine h.snoc rfl ?_ ?_ (fun huntouched => ?_)
    (fun r rest htracks => htracks.onRequestSettled requestId failed) ?_
  · unfold ActiveTurnObservation.onRequestSettled
    split <;> rfl
  · unfold ActiveTurnObservation.onRequestSettled
    split <;> rfl
  · unfold ActiveTurnObservation.onRequestSettled
    rw [if_pos (.inl (by simp [huntouched.selected]))]
    exact huntouched
  · unfold ActiveTurnObservation.onRequestSettled
    split
    · exact h.hushed
    · exact Hushed.onResponse limits (o := { o with lifecycle := some _ }) h.hushed
        (.settled requestId _) fun t => ⟨[], rfl⟩

open CdpResponseStreamTracker in
/-- An answer to `streamResourceContent`. -/
theorem Follows.answer {t t' : CdpTurnObservationTracker} (h : Follows parseUrl handle trace o)
    (hactive : t.active = some o) {action : TrackerAction} (hrequest : a.requestId? = none)
    (hstatus : ∀ r, a.statusOf r = none) (hsettles : ∀ r, a.settles r = false)
    (hstep : t.respond limits action = some t') :
    ∃ o', t'.active = some o' ∧ Follows parseUrl handle (trace ++ [a]) o' := by
  simp only [CdpTurnObservationTracker.respond, hactive, Option.bind_eq_bind, Option.bind_some,
    Option.pure_def, Option.bind_eq_some_iff, Option.some.injEq] at hstep
  obtain ⟨response, hresponse, run, hrun, rfl⟩ := hstep
  refine ⟨_, rfl, h.respond hrequest hstatus hsettles ?_⟩
  intro hambiguous tracker htracker
  obtain rfl : run.tracker = tracker := by simpa using htracker
  exact ((h.hushed hambiguous response hresponse).step hrun).1

/-- One action of the trace. -/
theorem Follows.step {t t' : CdpTurnObservationTracker} (h : Follows parseUrl handle trace o)
    (hactive : t.active = some o) (hstep : t.step parseUrl limits a = some t') :
    ∃ o', t'.active = some o' ∧ Follows parseUrl handle (trace ++ [a]) o' := by
  have hupdate : ∀ f, (t.update f).active = some (f o) := by simp [update, hactive]
  cases a with
  | requestWillBeSent requestId rawUrl method redirected =>
    cases hstep
    exact ⟨_, hupdate _, h.onRequestWillBeSent requestId rawUrl method redirected⟩
  | responseReceived requestId status network =>
    cases hstep
    exact ⟨_, hupdate _, h.onResponseReceived requestId status network⟩
  | dataReceived requestId data =>
    cases hstep
    exact ⟨_, hupdate _, h.respond rfl (fun _ => rfl) (fun _ => rfl)
      (Hushed.onResponse limits h.hushed (.data requestId data) fun t => ⟨[], rfl⟩)⟩
  | requestSettled requestId failed =>
    cases hstep
    exact ⟨_, hupdate _, h.onRequestSettled requestId failed⟩
  | activated requestId bufferedData =>
    exact h.answer hactive rfl (fun _ => rfl) (fun _ => rfl) hstep
  | activationRejected requestId =>
    exact h.answer hactive rfl (fun _ => rfl) (fun _ => rfl) hstep
  | takeEvents =>
    cases hstep
    exact ⟨_, hupdate _, h.respond rfl (fun _ => rfl) (fun _ => rfl)
      (Hushed.onResponse limits h.hushed .drain fun t => ⟨_, rfl⟩)⟩
  | discard =>
    cases hstep
    exact ⟨_, hupdate _, h.respond rfl (fun _ => rfl) (fun _ => rfl)
      (Hushed.onResponse limits h.hushed .discard fun t => ⟨[], rfl⟩)⟩

/-- A whole trace, from an armed tracker. -/
theorem exec_follows {idle armed observed : CdpTurnObservationTracker}
    {responseStream dataObservationAvailable : Bool}
    (harm : idle.armTurnObservation responseStream dataObservationAvailable = .ok (handle, armed))
    (hrun : Machine.exec (step parseUrl limits) armed trace = some observed) :
    ∃ o, observed.active = some o ∧ Follows parseUrl handle trace o := by
  refine Machine.exec_history (I := fun trace observed =>
    ∃ o, observed.active = some o ∧ Follows parseUrl handle trace o) ?_ ?_ hrun
  · unfold armTurnObservation at harm
    cases hactive : idle.active with
    | some _ => simp [hactive] at harm
    | none =>
      simp only [hactive, Except.ok.injEq, Prod.mk.injEq] at harm
      obtain ⟨rfl, rfl⟩ := harm
      exact ⟨_, rfl, rfl, ⟨rfl, rfl⟩, rfl, fun hambiguous => nomatch hambiguous⟩
  · rintro past before a after - ⟨o, hactive, hfollows⟩ hstep
    exact hfollows.step hactive hstep

/-- The ambiguity of a trace is that of its observation. -/
theorem Follows.ambiguous_iff (h : Follows parseUrl handle trace o) :
    o.ambiguousWrite = true ↔ Ambiguous parseUrl trace := by
  have hwrite := h.write
  unfold Writes at hwrite
  unfold Ambiguous
  cases hselection : selection parseUrl trace with
  | none =>
    simp only [hselection] at hwrite
    simp [hwrite.unambiguous]
  | some selected =>
    simp only [hselection] at hwrite
    rw [hwrite.ambiguous]
    constructor
    · exact fun h => ⟨_, _, rfl, h⟩
    · rintro ⟨r, rest, heq, hambiguous⟩
      cases heq
      exact hambiguous

/-- An ambiguity stays. -/
theorem Ambiguous.append (h : Ambiguous parseUrl trace) (more : List ObservationAction) :
    Ambiguous parseUrl (trace ++ more) := by
  induction more using List.reverseRecOn with
  | nil => rwa [List.append_nil]
  | append_singleton more a ih =>
    obtain ⟨r, rest, hselection, hambiguous⟩ := ih
    rw [← List.append_assoc]
    refine ⟨r, rest ++ [a], ?_, ambiguousAfter_snoc.mpr (.inl hambiguous)⟩
    rw [selection_snoc, hselection]

/-- What an armed tracker says after any trace. It throws the error of an ambiguous write if and
only if the trace is ambiguous, and then it does so for good and gives out no response event any
more; otherwise it says how the first writing request stands and how many preparing requests there
were. -/
theorem turn_observation_trace (parseUrl : UrlParser) (limits : ConsumerLimits)
    {idle armed observed : CdpTurnObservationTracker} {handle : CdpTurnObservationHandle}
    {responseStream dataObservationAvailable : Bool} {trace : List ObservationAction}
    (harm : idle.armTurnObservation responseStream dataObservationAvailable = .ok (handle, armed))
    (hrun : Machine.exec (step parseUrl limits) armed trace = some observed) :
    (observed.getTurnObservation handle = .error ambiguousWriteError ↔
      Ambiguous parseUrl trace) ∧
    (Ambiguous parseUrl trace → ∀ more later,
      Machine.exec (step parseUrl limits) observed more = some later →
        later.getTurnObservation handle = .error ambiguousWriteError ∧
          ∃ t, later.takeTurnResponseEvents handle = .ok ([], t)) ∧
    (¬ Ambiguous parseUrl trace → ∃ snapshot,
      observed.getTurnObservation handle = .ok snapshot ∧
        snapshot.write = (selection parseUrl trace).map (fun selected =>
          writeLifecycle selected.1 selected.2) ∧
        snapshot.prepareCount = prepareCount parseUrl trace) := by
  have hthrows : ∀ {trace observed},
      Machine.exec (step parseUrl limits) armed trace = some observed →
      (observed.getTurnObservation handle = .error ambiguousWriteError ↔
        Ambiguous parseUrl trace) := by
    intro trace observed hrun
    obtain ⟨o, hactive, hfollows⟩ := exec_follows harm hrun
    rw [← hfollows.ambiguous_iff]
    cases hambiguous : o.ambiguousWrite <;>
      simp [getTurnObservation, require, hactive, hfollows.handle_eq, hambiguous, bind, Except.bind]
  -- An ambiguous write stays so, and its tracker is silent.
  refine ⟨hthrows hrun, fun hambiguous more later hmore => ?_, fun hclear => ?_⟩
  · have hlater : Machine.exec (step parseUrl limits) armed (trace ++ more) = some later :=
      Machine.exec_append_eq_some.mpr ⟨observed, hrun, hmore⟩
    refine ⟨(hthrows hlater).mpr (hambiguous.append more), ?_⟩
    obtain ⟨o, hactive, hfollows⟩ := exec_follows harm hlater
    have hsilent := hfollows.hushed (hfollows.ambiguous_iff.mpr (hambiguous.append more))
    cases hresponse : o.response with
    | none =>
      exact ⟨later, by simp [takeTurnResponseEvents, require, hactive, hfollows.handle_eq,
        hresponse, bind, Except.bind]⟩
    | some response =>
      have hconsumer := (hsilent response hresponse).2
      exact ⟨_, by simp only [takeTurnResponseEvents, require, hactive, hfollows.handle_eq,
        hresponse, bind, Except.bind, if_true, CdpResponseStreamTracker.drain, hconsumer]; rfl⟩
  · obtain ⟨o, hactive, hfollows⟩ := exec_follows harm hrun
    have hopen : o.ambiguousWrite = false := by
      rw [← Bool.not_eq_true, hfollows.ambiguous_iff]
      exact hclear
    refine ⟨_, by simp only [getTurnObservation, require, hactive, hfollows.handle_eq, hopen, bind,
      Except.bind, if_true, Bool.false_eq_true, if_false]; rfl, ?_, hfollows.count⟩
    -- The snapshot shows the selected leg as the trace has it.
    have hwrite := hfollows.write
    unfold Writes at hwrite
    cases hselection : selection parseUrl trace with
    | none =>
      simp only [hselection] at hwrite
      simp [hwrite.selected]
    | some selected =>
      simp only [hselection] at hwrite
      simp only [hwrite.selected, Option.isNone_some, Bool.false_eq_true, if_false, Option.map_some]
      cases hsettled : selected.2.any (settles selected.1) with
      | true => exact hwrite.settled hsettled
      | false =>
        rw [(hwrite.active hsettled).1, writeLifecycle_of_active hsettled]

/-- A parser that knows the address of the writing request. -/
def conversationUrl : UrlParser := fun rawUrl =>
  if rawUrl = "https://chatgpt.com/backend-api/f/conversation" then
    some
      { protocol := "https:"
        origin := "https://chatgpt.com"
        username := ""
        password := ""
        pathname := "/backend-api/f/conversation" }
  else none

/-- A write that is redirected after a success, and written again. -/
def rewrittenTrace : List ObservationAction :=
  [.requestWillBeSent "1" "https://chatgpt.com/backend-api/f/conversation" (some "POST") false,
    .responseReceived "1" (some 200) .promises, .activated "1" none,
    .requestWillBeSent "1" "https://chatgpt.com/backend-api/f/conversation" (some "POST") true,
    .requestWillBeSent "2" "https://chatgpt.com/backend-api/f/conversation" (some "POST") false]

/-- The write that is sent again is ambiguous. -/
theorem turn_observation_trace_rewritten :
    ∃ armed observed, armTurnObservation true true {} = .ok (0, armed) ∧
      Machine.exec (step conversationUrl {}) armed rewrittenTrace = some observed ∧
      (observed.getTurnObservation 0 = .error ambiguousWriteError ↔
        Ambiguous conversationUrl rewrittenTrace) := by
  have hruns : (Machine.exec (step conversationUrl {})
      { active := some { handle := 0, response := some {} }, handles := 1 }
      rewrittenTrace).isSome := by decide +kernel
  obtain ⟨observed, hrun⟩ := Option.isSome_iff_exists.mp hruns
  have harm : armTurnObservation true true {} =
      .ok (0, { active := some { handle := 0, response := some {} }, handles := 1 }) := rfl
  exact ⟨_, observed, harm, hrun, (turn_observation_trace conversationUrl {} harm hrun).1⟩

end CdpTurnObservationTracker

end Threadwire
