import Mathlib.Data.List.Basic
import Threadwire.Collections.LastElements
import Threadwire.Machine.Trace
import Threadwire.Readiness.ReadinessController

/-!
# When a route counts as ready

`waitForRoute` returns only for a route that was stable: since the last reset its frame was the same
in the last snapshots, its one editable was focused and stayed the target, and the last snapshots
show it focused in one epoch of the backend. A fresh wait has seen this for the time of its guard.

The gates remember counts, keys and times. Their invariants say what these mean in terms of the
events since the last reset.
-/

namespace Threadwire

namespace ReadinessController

/-- The snapshot of an event. -/
def snapshot? : ReadinessEvent → Option ExistingReadinessSnapshot
  | .observed snapshot => some snapshot
  | _ => none

/-- The snapshots that were observed. -/
def snapshots (log : List ReadinessEvent) : List ExistingReadinessSnapshot :=
  log.filterMap snapshot?

/-- The events that reset the gate: a blocking notice, a dismissal and a changed candidate. -/
def isReset : ReadinessEvent → Bool
  | .observed snapshot => snapshot.isBlocked
  | .dismissed _ => true
  | .focused _ .candidateChanged => true
  | _ => false

/-- Two snapshots show one document in one frame. -/
def SameFrame (snapshot other : ExistingReadinessSnapshot) : Prop :=
  snapshot.mainFrame.frameId = other.mainFrame.frameId ∧
    snapshot.mainFrame.loaderId = other.mainFrame.loaderId

/-- The snapshot has one editable, and this is its node. -/
def OnlyEditable (node : Rat) (snapshot : ExistingReadinessSnapshot) : Prop :=
  ∃ focused, snapshot.eligibleEditables = [⟨node, focused⟩]

/-- What makes the inner gate ready: at the last of these events, the snapshot. -/
structure InnerReady (policy : ExistingReadinessPolicy) (since : List ReadinessEvent)
    (snapshot : ExistingReadinessSnapshot) : Prop where
  frame : List.LastAll policy.frameStableObservations
    (fun s => s.mainFrame.expectedRoute = true ∧ SameFrame s snapshot) (snapshots since)
  focus : ∃ node before after, since = before ++ .focused node .succeeded :: after ∧
    (∀ s ∈ snapshots after, OnlyEditable node s) ∧
    List.LastAll policy.focusStableObservations
      (fun s => s.eligibleEditables = [⟨node, true⟩] ∧ s.activityEpoch = snapshot.activityEpoch)
      (snapshots after)

/-- Snapshots in a row, each with the time that was read after it. -/
def timed (readings : List (ExistingReadinessSnapshot × Rat)) : List ReadinessEvent :=
  readings.flatMap fun reading => [.observed reading.1, .readClock reading.2]

/-- The inner gate is ready at each of these snapshots, the first of which comes after `start`. -/
def AllReady (policy : ExistingReadinessPolicy) (start : List ReadinessEvent)
    (readings : List (ExistingReadinessSnapshot × Rat)) : Prop :=
  ∀ earlier snapshot now later, readings = earlier ++ (snapshot, now) :: later →
    InnerReady policy (start ++ timed earlier ++ [.observed snapshot]) snapshot

/-- The events end with snapshots in a row at which the inner gate was ready, and whose times span
the duration. -/
def Guarded (policy : FreshReadinessPolicy) (since : List ReadinessEvent) : Prop :=
  ∃ start readings, since = start ++ timed readings ∧
    AllReady policy.existingPolicy start readings ∧
    ∃ first ∈ readings.head?, ∃ last ∈ readings.getLast?,
      policy.guardDurationMs ≤ last.2 - first.2

/-- The events since the last reset. -/
structure SinceReset (log since : List ReadinessEvent) : Prop where
  split : ∃ before, log = before ++ since ∧
    (before = [] ∨ ∃ init reset, before = init ++ [reset] ∧ isReset reset = true)
  unreset : ∀ event ∈ since, isReset event = false

/-- What a wait has seen that returns this snapshot. -/
structure RouteReady (r : ReadinessController) (createGate : GateFactory)
    (log : List ReadinessEvent) (snapshot : ExistingReadinessSnapshot) : Prop where
  unblocked : snapshot.isBlocked = false
  last : (snapshots log).getLast? = some snapshot
  ready : ∃ since, SinceReset log since ∧
    if createGate = .fresh ∨ .dismissed (.ok ()) ∈ log then
      InnerReady r.freshPolicy.existingPolicy since snapshot ∧ Guarded r.freshPolicy since
    else InnerReady r.existingPolicy since snapshot

/-- The law of the focus: a node is focused right after a snapshot without a blocking notice. -/
def FocusesUnblocked (past : List ReadinessEvent) (event : ReadinessEvent) : Prop :=
  ∀ node outcome, event = .focused node outcome →
    ∃ init snapshot, past = init ++ [.observed snapshot] ∧ snapshot.isBlocked = false

variable {policy : ExistingReadinessPolicy} {gate : ExistingReadinessGate}
  {since : List ReadinessEvent} {snapshot : ExistingReadinessSnapshot}

/-- The snapshots of a log that is continued. -/
theorem snapshots_append (log log' : List ReadinessEvent) :
    snapshots (log ++ log') = snapshots log ++ snapshots log' :=
  List.filterMap_append

/-- One more observation is one more snapshot. -/
theorem snapshots_observed : snapshots (since ++ [.observed snapshot]) = snapshots since ++ [snapshot] :=
  snapshots_append _ _

/-! ## The gate of the existing policy -/

/-- The ids of a snapshot have no NUL character. -/
def NulFree (snapshot : ExistingReadinessSnapshot) : Prop :=
  '\x00' ∉ snapshot.mainFrame.frameId.toList ∧ '\x00' ∉ snapshot.mainFrame.loaderId.toList

/-- The key of a frame tells frames apart. -/
theorem sameFrame_of_frameKeyOf {other : ExistingReadinessSnapshot} (hnul : NulFree snapshot)
    (h : ExistingReadinessGate.frameKeyOf snapshot = ExistingReadinessGate.frameKeyOf other) :
    SameFrame snapshot other := by
  have hlist := congrArg String.toList h
  simp only [ExistingReadinessGate.frameKeyOf, String.toList_append] at hlist
  have hsplit : snapshot.mainFrame.frameId.toList ++ '\x00' :: snapshot.mainFrame.loaderId.toList =
      other.mainFrame.frameId.toList ++ '\x00' :: other.mainFrame.loaderId.toList := by
    simpa using hlist
  obtain ⟨hframe, -, hloader⟩ := (List.append_cons_inj_of_notMem hnul.1 hnul.2).mp hsplit
  exact ⟨String.toList_injective hframe, String.toList_injective hloader⟩

/-- The target of the gate was focused, and was the one editable since; it is focused, in the
gate's epoch, in the last snapshots. -/
def Focused (gate : ExistingReadinessGate) (since : List ReadinessEvent) (node : Rat) : Prop :=
  ∃ before after, since = before ++ .focused node .succeeded :: after ∧
    (∀ s ∈ snapshots after, OnlyEditable node s) ∧
    List.LastAll gate.focusStableCount
      (fun s => s.eligibleEditables = [⟨node, true⟩] ∧
        gate.readyActivityEpoch = some s.activityEpoch) (snapshots after)

/-- What the fields of the gate mean. -/
structure GateInvariant (policy : ExistingReadinessPolicy) (gate : ExistingReadinessGate)
    (since : List ReadinessEvent) : Prop where
  frame : List.LastAll gate.frameStableCount
    (fun s => s.mainFrame.expectedRoute = true ∧
      gate.frameKey = some (ExistingReadinessGate.frameKeyOf s)) (snapshots since)
  stable : gate.focusTargetId ≠ none → policy.frameStableObservations ≤ gate.frameStableCount
  focus : ∀ node, gate.focusTargetId = some node → Focused gate since node
  epoch : gate.readyActivityEpoch = none → gate.focusStableCount = 0

/-- A new gate has seen nothing. -/
theorem gateInvariant_initial : GateInvariant policy {} since where
  frame := List.lastAll_zero
  stable h := absurd rfl h
  focus _ h := nomatch h
  epoch _ := rfl

/-- The invariant survives events that are not snapshots. -/
theorem GateInvariant.append (h : GateInvariant policy gate since) {event : ReadinessEvent}
    (hevent : snapshot? event = none) : GateInvariant policy gate (since ++ [event]) := by
  have hsnapshots : ∀ log, snapshots (log ++ [event]) = snapshots log := fun log => by
    simp [snapshots, hevent]
  refine ⟨by rw [hsnapshots]; exact h.frame, h.stable, fun node hnode => ?_, h.epoch⟩
  obtain ⟨before, after, rfl, honly, hlast⟩ := h.focus node hnode
  exact ⟨before, after ++ [event], by simp, by rwa [hsnapshots], by rwa [hsnapshots]⟩

/-- The invariant between the two parts of `observe`: the frame is counted with the snapshot, the
target without it. -/
structure FrameObserved (policy : ExistingReadinessPolicy) (gate : ExistingReadinessGate)
    (since : List ReadinessEvent) (snapshot : ExistingReadinessSnapshot) : Prop where
  key : gate.frameKey = some (ExistingReadinessGate.frameKeyOf snapshot)
  frame : List.LastAll gate.frameStableCount
    (fun s => s.mainFrame.expectedRoute = true ∧
      gate.frameKey = some (ExistingReadinessGate.frameKeyOf s))
    (snapshots (since ++ [.observed snapshot]))
  stable : gate.focusTargetId ≠ none → policy.frameStableObservations ≤ gate.frameStableCount
  focus : ∀ node, gate.focusTargetId = some node → Focused gate since node
  epoch : gate.readyActivityEpoch = none → gate.focusStableCount = 0

/-- The first part of `observe` counts the frame's snapshots from the last change of the
document. -/
theorem GateInvariant.observeFrame (h : GateInvariant policy gate since)
    (hroute : snapshot.mainFrame.expectedRoute = true) :
    FrameObserved policy (gate.observeFrame snapshot) since snapshot := by
  unfold ExistingReadinessGate.observeFrame
  split
  · refine ⟨rfl, ?_, fun hne => absurd rfl hne, (fun _ h => nomatch h), fun _ => rfl⟩
    rw [snapshots_observed]
    exact List.lastAll_zero.snoc ⟨hroute, rfl⟩
  · rename_i hkey
    have hkey : gate.frameKey = some (ExistingReadinessGate.frameKeyOf snapshot) := by
      simpa using hkey
    refine ⟨hkey, ?_, fun hne => Nat.le_succ_of_le (h.stable hne), h.focus, h.epoch⟩
    rw [snapshots_observed]
    exact h.frame.snoc ⟨hroute, hkey⟩

/-- The gate keeps its count of the frame when it looks for its target anew. -/
theorem FrameObserved.resetFocus (h : FrameObserved policy gate since snapshot) :
    GateInvariant policy gate.resetFocus (since ++ [.observed snapshot]) where
  frame := h.frame
  stable hne := absurd rfl hne
  focus _ h := nomatch h
  epoch _ := rfl

/-- The target, seen as the one editable once more. -/
theorem Focused.observed {node : Rat} {gate' : ExistingReadinessGate}
    (h : Focused gate since node) (honly : OnlyEditable node snapshot)
    (hlast : ∀ after, List.LastAll gate.focusStableCount
      (fun s => s.eligibleEditables = [⟨node, true⟩] ∧
        gate.readyActivityEpoch = some s.activityEpoch) (snapshots after) →
      List.LastAll gate'.focusStableCount
        (fun s => s.eligibleEditables = [⟨node, true⟩] ∧
          gate'.readyActivityEpoch = some s.activityEpoch) (snapshots after ++ [snapshot])) :
    Focused gate' (since ++ [.observed snapshot]) node := by
  obtain ⟨before, after, rfl, hbefore, hafter⟩ := h
  refine ⟨before, after ++ [.observed snapshot], by simp, fun s hs => ?_, ?_⟩
  · rw [snapshots_observed, List.mem_append, List.mem_singleton] at hs
    rcases hs with hs | rfl
    · exact hbefore s hs
    · exact honly
  · rw [snapshots_observed]
    exact hlast after hafter

/-- What another snapshot with the focused target does to the count of the focus. -/
theorem Focused.observeEpoch {node : Rat} (h : Focused gate since node)
    (htarget : snapshot.eligibleEditables = [⟨node, true⟩]) :
    Focused (gate.observeEpoch snapshot) (since ++ [.observed snapshot]) node := by
  refine h.observed ⟨true, htarget⟩ fun after hafter => ?_
  unfold ExistingReadinessGate.observeEpoch
  split
  · exact List.lastAll_zero.snoc ⟨htarget, rfl⟩
  · rename_i hepoch
    exact hafter.snoc ⟨htarget, by simpa using hepoch⟩

/-- Counting the epochs of activity leaves the frame and the focus alone. -/
theorem observeEpoch_fields (gate : ExistingReadinessGate) (snapshot : ExistingReadinessSnapshot) :
    (gate.observeEpoch snapshot).frameKey = gate.frameKey ∧
      (gate.observeEpoch snapshot).frameStableCount = gate.frameStableCount ∧
      (gate.observeEpoch snapshot).focusTargetId = gate.focusTargetId ∧
      (gate.observeEpoch snapshot).readyActivityEpoch = some snapshot.activityEpoch := by
  unfold ExistingReadinessGate.observeEpoch
  split
  · exact ⟨rfl, rfl, rfl, rfl⟩
  · rename_i hepoch
    exact ⟨rfl, rfl, rfl, by simpa using hepoch⟩

/-- A snapshot with the focused target. -/
theorem FrameObserved.observeEpoch (h : FrameObserved policy gate since snapshot) {node : Rat}
    (hnode : gate.focusTargetId = some node)
    (htarget : snapshot.eligibleEditables = [⟨node, true⟩]) :
    GateInvariant policy (gate.observeEpoch snapshot) (since ++ [.observed snapshot]) := by
  obtain ⟨hkey, hcount, hid, hepoch⟩ := observeEpoch_fields gate snapshot
  refine ⟨?_, ?_, fun node' hnode' => ?_, ?_⟩
  · rw [hkey, hcount]
    exact h.frame
  · rw [hid, hcount]
    exact h.stable
  · rw [hid, hnode] at hnode'
    cases hnode'
    exact (h.focus node hnode).observeEpoch htarget
  · rw [hepoch]
    exact fun h => nomatch h

/-- Where the counts are reached, the snapshot is one at which the gate is ready. -/
theorem FrameObserved.innerReady (h : FrameObserved policy gate since snapshot)
    (hnul : NulFree snapshot) {node : Rat} (hnode : gate.focusTargetId = some node)
    (htarget : snapshot.eligibleEditables = [⟨node, true⟩])
    (hframe : policy.frameStableObservations ≤ gate.frameStableCount)
    (hfocus : policy.focusStableObservations ≤ (gate.observeEpoch snapshot).focusStableCount) :
    InnerReady policy (since ++ [.observed snapshot]) snapshot := by
  refine ⟨(h.frame.of_le hframe).mono fun s hs => ⟨hs.1, ?_⟩, node, ?_⟩
  · have hkey := Option.some.inj (h.key.symm.trans hs.2)
    obtain ⟨hframeId, hloaderId⟩ := sameFrame_of_frameKeyOf hnul hkey
    exact ⟨hframeId.symm, hloaderId.symm⟩
  · obtain ⟨before, after, hsplit, honly, hlast⟩ := (h.focus node hnode).observeEpoch htarget
    refine ⟨before, after, hsplit, honly, (hlast.of_le hfocus).mono fun s hs => ⟨hs.1, ?_⟩⟩
    rw [(observeEpoch_fields gate snapshot).2.2.2] at hs
    exact (Option.some.inj hs.2).symm

/-- What the gate's answer to a snapshot says. Where it wants a node focused, this is about the
events with the focus that succeeded. -/
def Observed (policy : ExistingReadinessPolicy) (since : List ReadinessEvent)
    (snapshot : ExistingReadinessSnapshot) : ReadinessAction × ExistingReadinessGate → Prop
  | (.WAIT, gate) => GateInvariant policy gate (since ++ [.observed snapshot])
  | (.FOCUS node, gate) =>
    GateInvariant policy gate (since ++ [.observed snapshot] ++ [.focused node .succeeded])
  | (.READY, gate) => GateInvariant policy gate (since ++ [.observed snapshot]) ∧
    InnerReady policy (since ++ [.observed snapshot]) snapshot

/-- The second part of `observe` answers ready, or asks for the focus, on what was counted. -/
theorem FrameObserved.observeFocus (h : FrameObserved policy gate since snapshot)
    (hnul : NulFree snapshot) (hframe : policy.frameStableObservations ≤ gate.frameStableCount) :
    Observed policy since snapshot (gate.observeFocus policy snapshot) := by
  have hsnapshots : ∀ node, snapshots (since ++ [.observed snapshot] ++ [.focused node .succeeded]) =
      snapshots (since ++ [.observed snapshot]) := fun node => by simp [snapshots, snapshot?]
  unfold ExistingReadinessGate.observeFocus
  split
  · rename_i target htarget
    split
    · -- a new target: it is focused now
      refine ⟨?_, fun _ => hframe, fun node hnode => ?_, fun _ => rfl⟩
      · rw [hsnapshots]
        exact h.frame
      · cases hnode
        exact ⟨since ++ [.observed snapshot], [], rfl, (fun _ hs => nomatch hs), List.lastAll_zero⟩
    rename_i hsame
    have hnode : gate.focusTargetId = some target.backendDOMNodeId := by simpa using hsame
    split
    · -- the target is there and lost the focus
      have hreset : GateInvariant policy gate.resetReadyEpoch (since ++ [.observed snapshot]) := by
        refine ⟨h.frame, h.stable, fun node hnode' => ?_, fun _ => rfl⟩
        refine (h.focus node hnode').observed ?_ fun _ _ => List.lastAll_zero
        rw [show gate.resetReadyEpoch.focusTargetId = gate.focusTargetId from rfl, hnode] at hnode'
        cases hnode'
        exact ⟨target.focused, htarget⟩
      exact hreset.append rfl
    rename_i hfocused
    have htarget' : snapshot.eligibleEditables = [⟨target.backendDOMNodeId, true⟩] := by
      rw [htarget]
      simp only [List.cons.injEq, and_true]
      cases target
      simp_all
    have hinvariant := h.observeEpoch hnode htarget'
    dsimp only
    split
    · exact hinvariant
    · rename_i hfocus
      exact ⟨hinvariant, h.innerReady hnul hnode htarget' hframe (Nat.le_of_not_lt hfocus)⟩
  · exact h.resetFocus

/-- The answer of the gate to a snapshot. -/
theorem GateInvariant.observe (h : GateInvariant policy gate since) (hnul : NulFree snapshot) :
    Observed policy since snapshot (gate.observe policy snapshot) := by
  unfold ExistingReadinessGate.observe
  split
  · exact ⟨List.lastAll_zero, fun hne => absurd rfl hne, (fun _ h => nomatch h), fun _ => rfl⟩
  rename_i hroute
  have hframe : FrameObserved policy (gate.observeFrame snapshot) since snapshot :=
    h.observeFrame (by simpa using hroute)
  dsimp only
  split
  · -- the frame is not stable yet, so there is no target
    rename_i hcount
    have hnone : (gate.observeFrame snapshot).focusTargetId = none := by
      by_contra hne
      exact absurd (hframe.stable hne) (Nat.not_le_of_lt hcount)
    refine ⟨hframe.frame, fun hne => absurd hnone hne, fun node hnode => ?_, hframe.epoch⟩
    rw [hnone] at hnode
    cases hnode
  · rename_i hcount
    exact hframe.observeFocus hnul (Nat.le_of_not_lt hcount)

/-! ## The gate of the fresh policy -/

/-- What the fields of the fresh gate mean: its guard started at the first of the snapshots in a row
at which the inner gate was ready. -/
structure FreshInvariant (policy : FreshReadinessPolicy) (gate : FreshReadinessGate)
    (since : List ReadinessEvent) : Prop where
  inner : GateInvariant policy.existingPolicy gate.existingGate since
  guard : ∀ time, gate.guardStartTime = some time →
    ∃ start readings, since = start ++ timed readings ∧
      AllReady policy.existingPolicy start readings ∧ ∃ first ∈ readings.head?, first.2 = time

/-- A fresh gate whose guard has not started means what its inner gate means. -/
theorem FreshInvariant.of_none {policy : FreshReadinessPolicy} {existingGate : ExistingReadinessGate}
    (h : GateInvariant policy.existingPolicy existingGate since) :
    FreshInvariant policy { existingGate, guardStartTime := none } since :=
  ⟨h, fun _ hnone => nomatch hnone⟩

/-- A snapshot and the clock after it, at the end of a row. -/
theorem timed_snoc (readings : List (ExistingReadinessSnapshot × Rat))
    (snapshot : ExistingReadinessSnapshot) (now : Rat) :
    timed (readings ++ [(snapshot, now)]) =
      timed readings ++ [.observed snapshot] ++ [.readClock now] := by
  simp [timed]

/-- One more snapshot in the row. -/
theorem AllReady.snoc {start : List ReadinessEvent}
    {readings : List (ExistingReadinessSnapshot × Rat)} (h : AllReady policy start readings)
    (hready : InnerReady policy (start ++ timed readings ++ [.observed snapshot]) snapshot)
    (now : Rat) : AllReady policy start (readings ++ [(snapshot, now)]) := by
  intro earlier snapshot' now' later hsplit
  rcases List.eq_nil_or_concat later with rfl | ⟨rest, last, rfl⟩
  · obtain ⟨rfl, hlast⟩ := List.append_inj' hsplit rfl
    cases hlast
    exact hready
  · rw [List.concat_eq_append, ← List.cons_append, ← List.append_assoc] at hsplit
    exact h earlier snapshot' now' rest (List.append_inj' hsplit rfl).1

/-- The guard after a snapshot at which the inner gate is ready, and a reading of the clock. -/
theorem FreshInvariant.guarded {policy : FreshReadinessPolicy} {gate : FreshReadinessGate}
    (h : FreshInvariant policy gate since) {existingGate : ExistingReadinessGate}
    (hinner : GateInvariant policy.existingPolicy existingGate (since ++ [.observed snapshot]))
    (hready : InnerReady policy.existingPolicy (since ++ [.observed snapshot]) snapshot)
    (now : Rat) :
    let (action, gate') := { gate with existingGate }.guard policy now
    FreshInvariant policy gate' (since ++ [.observed snapshot] ++ [.readClock now]) ∧
      (action = .WAIT ∨
        action = .READY ∧ Guarded policy (since ++ [.observed snapshot] ++ [.readClock now])) := by
  -- the row of snapshots: a new one, or the old one with this snapshot
  obtain ⟨start, readings, hsplit, hall, first, hfirst, htime, last, hlast, hnow⟩ :
      ∃ start readings, since ++ [.observed snapshot] ++ [.readClock now] = start ++ timed readings ∧
        AllReady policy.existingPolicy start readings ∧
        ∃ first ∈ readings.head?, first.2 = gate.guardStartTime.getD now ∧
          ∃ last ∈ readings.getLast?, last.2 = now := by
    cases hguard : gate.guardStartTime with
    | none =>
      refine ⟨since, [(snapshot, now)], by simp [timed], ?_, _, rfl, rfl, _, rfl, rfl⟩
      have hnil : AllReady policy.existingPolicy since [] := fun earlier _ _ _ h => by simp at h
      exact hnil.snoc (by simpa [timed] using hready) now
    | some time =>
      obtain ⟨start, readings, rfl, hall, first, hfirst, htime⟩ := h.guard time hguard
      refine ⟨start, readings ++ [(snapshot, now)], ?_, hall.snoc hready now, first, ?_, htime,
        (snapshot, now), by simp, rfl⟩
      · simp [timed_snoc]
      · rw [List.head?_append, Option.mem_def.mp hfirst]
        rfl
  have hinvariant : FreshInvariant policy
      { existingGate, guardStartTime := some (gate.guardStartTime.getD now) }
      (since ++ [.observed snapshot] ++ [.readClock now]) := by
    refine ⟨hinner.append rfl, fun time htime' => ?_⟩
    cases htime'
    exact ⟨start, readings, hsplit, hall, first, hfirst, htime⟩
  refine ⟨hinvariant, ?_⟩
  dsimp only
  split
  · rename_i hspan
    refine .inr ⟨rfl, start, readings, hsplit, hall, first, hfirst, last, hlast, ?_⟩
    rw [htime, hnow]
    exact hspan
  · exact .inl rfl

/-! ## The wait -/

variable {r : ReadinessController} {createGate : GateFactory} {log : List ReadinessEvent}

/-- The gate is one of the factory, and its fields mean what they should. -/
def GateMeets (r : ReadinessController) (since : List ReadinessEvent) :
    GateFactory → ReadinessGate → Prop
  | .existing, .existing gate => GateInvariant r.existingPolicy gate since
  | .fresh, .fresh gate => FreshInvariant r.freshPolicy gate since
  | .existing, .fresh _ | .fresh, .existing _ => False

/-- The invariant of the loop, for the events since the wait began. -/
structure Waiting (r : ReadinessController) (createGate : GateFactory) (log : List ReadinessEvent)
    (state : WaitState) : Prop where
  lawful : Trace.Lawful FocusesUnblocked log
  factory : state.activeGateFactory = .fresh ↔ createGate = .fresh ∨ .dismissed (.ok ()) ∈ log
  gate : ∃ since, SinceReset log since ∧ GateMeets r since state.activeGateFactory state.gate

/-- A gate that was just made has seen nothing. -/
theorem gateMeets_createGate (factory : GateFactory) : GateMeets r [] factory factory.createGate := by
  cases factory
  · exact gateInvariant_initial
  · exact .of_none gateInvariant_initial

/-- After a reset nothing has been seen. -/
theorem sinceReset_nil {event : ReadinessEvent} (h : isReset event = true) :
    SinceReset (log ++ [event]) [] :=
  ⟨⟨log ++ [event], (List.append_nil _).symm, .inr ⟨log, event, rfl, h⟩⟩, fun _ h => nomatch h⟩

/-- An event that is no reset continues the events since the last one. -/
theorem SinceReset.snoc (h : SinceReset log since) {event : ReadinessEvent}
    (hevent : isReset event = false) : SinceReset (log ++ [event]) (since ++ [event]) := by
  obtain ⟨⟨before, rfl, hbefore⟩, hunreset⟩ := h
  refine ⟨⟨before, by rw [List.append_assoc], hbefore⟩, fun e he => ?_⟩
  rcases List.mem_append.mp he with he | he
  · exact hunreset e he
  · rw [List.mem_singleton.mp he]
    exact hevent

/-- An event that is no focus is lawful. -/
theorem lawful_unfocused (h : Trace.Lawful FocusesUnblocked log) {event : ReadinessEvent}
    (hevent : ∀ node outcome, event ≠ .focused node outcome) :
    Trace.Lawful FocusesUnblocked (log ++ [event]) :=
  h.snoc_of_free fun _ node outcome heq => absurd heq (hevent node outcome)

/-- What a round comes to. -/
def RoundEnd (r : ReadinessController) (createGate : GateFactory)
    (expectedRoute : RouteExpectation) (log : List ReadinessEvent) : WaitOutcome → Prop
  | .sleep state | .again state => Waiting r createGate log state
  | .done snapshot => Trace.Lawful FocusesUnblocked log ∧ ∃ seen fresh,
      log = seen ++ [.passed expectedRoute snapshot fresh] ∧ RouteReady r createGate seen snapshot

/-- The run has this log since the wait began. -/
def Since (base log : List ReadinessEvent) (run : ReadinessRun) : Prop := run.log = base ++ log

/-- What holds where the wait throws. -/
def WaitFails (base : List ReadinessEvent) (_ : Interrupt ThrownError) (run : ReadinessRun) :
    Prop :=
  ∃ log, Since base log run ∧ Trace.Lawful FocusesUnblocked log

open Effect

variable {base : List ReadinessEvent} {run run' : ReadinessRun} {factory : GateFactory}

/-- An event that is no snapshot does not take readiness away. -/
theorem InnerReady.append (h : InnerReady policy since snapshot) {event : ReadinessEvent}
    (hevent : snapshot? event = none) : InnerReady policy (since ++ [event]) snapshot := by
  have hsnapshots : ∀ log, snapshots (log ++ [event]) = snapshots log := fun log => by
    simp [snapshots, hevent]
  obtain ⟨hframe, node, before, after, rfl, honly, hlast⟩ := h
  exact ⟨by rwa [hsnapshots], node, before, after ++ [event], by simp, by rwa [hsnapshots],
    by rwa [hsnapshots]⟩

/-- The condition under which a gate of the factory lets the route pass. -/
def Passes (r : ReadinessController) (since : List ReadinessEvent)
    (snapshot : ExistingReadinessSnapshot) : GateFactory → Prop
  | .existing => InnerReady r.existingPolicy since snapshot
  | .fresh => InnerReady r.freshPolicy.existingPolicy since snapshot ∧ Guarded r.freshPolicy since

/-- What a gate's answer to a snapshot says: the events of the answer are readings of the clock. -/
def Answers (r : ReadinessController) (factory : GateFactory) (base log since : List ReadinessEvent)
    (snapshot : ExistingReadinessSnapshot) (answer : ReadinessAction × ReadinessGate)
    (run : ReadinessRun) : Prop :=
  match answer.1 with
  | .FOCUS node => run.log = base ++ log ∧
    GateMeets r (since ++ [.focused node .succeeded]) factory answer.2
  | .WAIT => ∃ readings : List Rat, run.log = base ++ (log ++ readings.map .readClock) ∧
    GateMeets r (since ++ readings.map .readClock) factory answer.2
  | .READY => ∃ readings : List Rat, run.log = base ++ (log ++ readings.map .readClock) ∧
    Passes r (since ++ readings.map .readClock) snapshot factory

/-- `observeGate` appends the snapshot and what the gate reads, and its answer says what
was seen. -/
theorem wp_observeGate {gate : ReadinessGate} (hgate : GateMeets r since factory gate)
    (hnul : NulFree snapshot) (hrun : run.log = base ++ log)
    {E : Interrupt ThrownError → ReadinessRun → Prop} :
    wp (observeGate r gate snapshot)
      (Answers r factory base log (since ++ [.observed snapshot]) snapshot) E run := by
  cases factory with
  -- The gate of an existing route reads nothing but the snapshot.
  | existing =>
    cases gate with
    | fresh gate => exact hgate.elim
    | existing gate =>
      have hobserved := GateInvariant.observe hgate hnul
      show Answers r .existing base log (since ++ [.observed snapshot]) snapshot
        ((gate.observe r.existingPolicy snapshot).1,
          .existing (gate.observe r.existingPolicy snapshot).2) run
      generalize gate.observe r.existingPolicy snapshot = answer at hobserved
      obtain ⟨action, gate'⟩ := answer
      cases action with
      | WAIT =>
        have hinvariant : GateInvariant r.existingPolicy gate' (since ++ [.observed snapshot]) :=
          hobserved
        exact ⟨[], by simpa using hrun, by simpa [GateMeets] using hinvariant⟩
      | FOCUS node => exact ⟨hrun, hobserved⟩
      | READY => exact ⟨[], by simpa using hrun, by simpa [Passes] using hobserved.2⟩
  | fresh =>
    cases gate with
    | existing gate => exact hgate.elim
    | fresh gate =>
      have hfresh : FreshInvariant r.freshPolicy gate since := hgate
      have hobserved := hfresh.inner.observe hnul
      unfold observeGate
      dsimp only
      generalize gate.existingGate.observe r.freshPolicy.existingPolicy snapshot = answer at hobserved
      obtain ⟨action, existingGate⟩ := answer
      cases action with
      | WAIT =>
        have hinvariant : FreshInvariant r.freshPolicy { existingGate, guardStartTime := none }
          (since ++ [.observed snapshot]) := .of_none hobserved
        exact ⟨[], by simpa using hrun, by simpa [GateMeets] using hinvariant⟩
      | FOCUS node => exact ⟨hrun, .of_none hobserved⟩
      -- The guard reads the clock once the inner gate is ready.
      | READY =>
        dsimp only
        rw [wp_bind, wp_ask, wp_bind, wp_record]
        have hguarded := hfresh.guarded hobserved.1 hobserved.2 (r.environment.clock run.asked)
        generalize ({ gate with existingGate } : FreshReadinessGate).guard r.freshPolicy
          (r.environment.clock run.asked) = answer at hguarded
        obtain ⟨action, gate'⟩ := answer
        obtain ⟨hinvariant, rfl | ⟨rfl, hguard⟩⟩ := hguarded
        · exact ⟨[r.environment.clock run.asked], by simp [hrun], hinvariant⟩
        · exact ⟨[r.environment.clock run.asked], by simp [hrun], hobserved.2.append rfl, hguard⟩

/-- Readings of the clock are no resets and no focus. -/
theorem SinceReset.readClock (h : SinceReset log since) (readings : List Rat) :
    SinceReset (log ++ readings.map .readClock) (since ++ readings.map .readClock) := by
  induction readings generalizing log since with
  | nil => simpa using h
  | cons now readings ih =>
    have hsnoc : SinceReset (log ++ [.readClock now]) (since ++ [.readClock now]) := h.snoc rfl
    simpa using ih hsnoc

/-- Reading the clock focuses nothing. -/
theorem lawful_readClock (h : Trace.Lawful FocusesUnblocked log) (readings : List Rat) :
    Trace.Lawful FocusesUnblocked (log ++ readings.map .readClock) := by
  refine h.append_of_free fun event hevent _ node outcome heq => ?_
  obtain ⟨now, -, rfl⟩ := List.mem_map.mp hevent
  cases heq

/-- The state and the log differ by events that leave the factory as it is. -/
theorem factory_append {activeGateFactory : GateFactory}
    (h : activeGateFactory = .fresh ↔ createGate = .fresh ∨ .dismissed (.ok ()) ∈ log)
    {events : List ReadinessEvent} (hevents : .dismissed (.ok ()) ∉ events) :
    activeGateFactory = .fresh ↔ createGate = .fresh ∨ .dismissed (.ok ()) ∈ log ++ events := by
  rw [h, List.mem_append]
  simp [hevents]

/-- The branch of a blocking notice. -/
theorem Waiting.wp_handleNotice {state : WaitState} (h : Waiting r createGate log state)
    (hblocked : snapshot.isBlocked = true) (expectedRoute : RouteExpectation)
    (hrun : Since base (log ++ [.observed snapshot]) run) :
    wp (handleNotice r expectedRoute snapshot state)
      (fun outcome run' => ∃ log', Since base log' run' ∧
        RoundEnd r createGate expectedRoute log' outcome) (WaitFails base) run := by
  have hlawful : Trace.Lawful FocusesUnblocked (log ++ [.observed snapshot]) :=
    lawful_unfocused h.lawful fun _ _ h => nomatch h
  rw [handleNotice, wp_bind, wp_setFreshReadinessProof, wp_ite]
  split
  · rw [wp_bind, wp_ask, wp_bind, wp_record, wp_bind, wp_ofAnswer]
    have hdismissed : ∀ outcome, Since base
        (log ++ [.observed snapshot] ++ [.dismissed outcome])
        { run with log := run.log ++ [.dismissed outcome] } := fun outcome => by
      simp only [Since] at hrun ⊢
      rw [hrun, List.append_assoc]
    have hlawful' : ∀ outcome, Trace.Lawful FocusesUnblocked
        (log ++ [.observed snapshot] ++ [.dismissed outcome]) := fun _ =>
      lawful_unfocused hlawful fun _ _ h => nomatch h
    cases r.environment.dismissKnownFreshNotice run.asked with
    | error error => exact ⟨_, hdismissed _, hlawful' _⟩
    | ok _ =>
      refine ⟨_, hdismissed _, hlawful' _, iff_of_true rfl (.inr (by simp)), [],
        sinceReset_nil rfl, gateMeets_createGate .fresh⟩
  · exact ⟨_, hrun, hlawful, factory_append h.factory (by simp), [], sinceReset_nil hblocked,
      gateMeets_createGate state.activeGateFactory⟩

/-- The branch of a focus, right after a snapshot without a blocking notice. -/
theorem wp_focus {state : WaitState} {node : Rat}
    (hlawful : Trace.Lawful FocusesUnblocked (log ++ [.observed snapshot]))
    (hunblocked : snapshot.isBlocked = false)
    (hfactory : state.activeGateFactory = .fresh ↔
      createGate = .fresh ∨ .dismissed (.ok ()) ∈ log ++ [.observed snapshot])
    (hsince : SinceReset (log ++ [.observed snapshot]) since)
    (hgate : GateMeets r (since ++ [.focused node .succeeded]) state.activeGateFactory state.gate)
    (expectedRoute : RouteExpectation) (hrun : Since base (log ++ [.observed snapshot]) run) :
    wp (focus r node state)
      (fun outcome run' => ∃ log', Since base log' run' ∧
        RoundEnd r createGate expectedRoute log' outcome) (WaitFails base) run := by
  have hfocused : ∀ outcome, Since base (log ++ [.observed snapshot] ++ [.focused node outcome])
      { run with log := run.log ++ [.focused node outcome] } := fun outcome => by
    simp only [Since] at hrun ⊢
    rw [hrun, List.append_assoc]
  have hlawful' : ∀ outcome, Trace.Lawful FocusesUnblocked
      (log ++ [.observed snapshot] ++ [.focused node outcome]) := fun outcome =>
    Trace.lawful_snoc.mpr ⟨hlawful, fun _ _ _ => ⟨log, snapshot, rfl, hunblocked⟩⟩
  rw [focus, wp_bind, wp_ask, wp_bind, wp_record]
  cases r.environment.focusBackendNode run.asked with
  | succeeded =>
    exact ⟨_, hfocused _, hlawful' _, factory_append hfactory (by simp), _, hsince.snoc rfl, hgate⟩
  | candidateChanged =>
    exact ⟨_, hfocused _, hlawful' _, factory_append hfactory (by simp), [], sinceReset_nil rfl,
      gateMeets_createGate state.activeGateFactory⟩
  | failed error => exact ⟨_, hfocused _, hlawful' _⟩

/-- Reading the clock observes nothing. -/
theorem snapshots_readClock (readings : List Rat) :
    snapshots (log ++ readings.map .readClock) = snapshots log := by
  rw [snapshots_append]
  have hnone : snapshots (readings.map .readClock) = [] := by
    refine List.filterMap_eq_nil_iff.mpr fun event hevent => ?_
    obtain ⟨now, -, rfl⟩ := List.mem_map.mp hevent
    rfl
  rw [hnone, List.append_nil]

/-- The route is ready where a gate of the active factory lets it pass. -/
theorem routeReady_of_passes {activeGateFactory : GateFactory} (hunblocked : snapshot.isBlocked = false)
    (hlast : (snapshots log).getLast? = some snapshot)
    (hfactory : activeGateFactory = .fresh ↔ createGate = .fresh ∨ .dismissed (.ok ()) ∈ log)
    (hsince : SinceReset log since) (hpasses : Passes r since snapshot activeGateFactory) :
    RouteReady r createGate log snapshot := by
  refine ⟨hunblocked, hlast, since, hsince, ?_⟩
  cases activeGateFactory with
  | existing => rwa [if_neg fun h => nomatch hfactory.mpr h]
  | fresh => rwa [if_pos (hfactory.mp rfl)]

/-- One round of the loop. -/
theorem Waiting.wp_waitRound {state : WaitState} (h : Waiting r createGate log state)
    (hnul : ∀ question snapshot, r.environment.getReadinessSnapshot question = .ok snapshot →
      NulFree snapshot)
    (expectedRoute : RouteExpectation) (signal : AbortTime) (hrun : Since base log run) :
    wp (waitRound r expectedRoute signal state)
      (fun outcome run' => ∃ log', Since base log' run' ∧
        RoundEnd r createGate expectedRoute log' outcome) (WaitFails base) run := by
  have hfails : ∀ asked, WaitFails base .pending { run with asked } := fun _ => ⟨log, hrun, h.lawful⟩
  rw [waitRound, wp_bind]
  refine wp_throwIfAborted signal ?_ fun _ => hfails run.asked
  rw [wp_bind, wp_ask, wp_bind, wp_ofAnswer]
  cases hanswer : r.environment.getReadinessSnapshot run.asked with
  | error error => exact hfails (run.asked + 1)
  | ok snapshot =>
    dsimp only
    rw [wp_bind, wp_record]
    have hobserved : Since base (log ++ [.observed snapshot])
        { run with asked := run.asked + 1, log := run.log ++ [.observed snapshot] } := by
      simp only [Since] at hrun ⊢
      rw [hrun, List.append_assoc]
    rw [wp_ite]
    -- A notice takes the round to its own end.
    split
    · exact h.wp_handleNotice ‹_› expectedRoute hobserved
    rename_i hblocked
    have hunblocked : snapshot.isBlocked = false := by simpa using hblocked
    have hlawful : Trace.Lawful FocusesUnblocked (log ++ [.observed snapshot]) :=
      lawful_unfocused h.lawful fun _ _ h => nomatch h
    -- The snapshot is no dismissal, so the gate is still one of the factory.
    have hundismissed : .dismissed (.ok ()) ∉ [ReadinessEvent.observed snapshot] := by simp
    have hfactory := factory_append h.factory hundismissed
    obtain ⟨since, hsince, hgate⟩ := h.gate
    have hsince : SinceReset (log ++ [.observed snapshot]) (since ++ [.observed snapshot]) :=
      hsince.snoc hunblocked
    rw [wp_bind]
    refine wp_mono (wp_observeGate hgate (hnul _ _ hanswer) hobserved)
      (fun answer run' hanswers => ?_) fun _ _ h => h
    obtain ⟨action, gate⟩ := answer
    -- Each answer of the gate ends the round in its own way.
    cases action with
    | FOCUS node =>
      refine wp_focus hlawful hunblocked ?_ hsince ?_ expectedRoute hanswers.1
      · exact hfactory
      · exact hanswers.2
    | WAIT =>
      obtain ⟨readings, hlog, hgate⟩ := hanswers
      exact ⟨_, hlog, lawful_readClock hlawful readings, factory_append hfactory (by simp), _,
        hsince.readClock readings, hgate⟩
    | READY =>
      obtain ⟨readings, hlog, hpasses⟩ := hanswers
      dsimp only
      rw [wp_bind, wp_record, wp_pure]
      have hpassed : Trace.Lawful FocusesUnblocked (log ++ [.observed snapshot] ++
          readings.map .readClock ++ [.passed expectedRoute snapshot gate.isFresh]) :=
        lawful_unfocused (lawful_readClock hlawful readings) fun _ _ h => nomatch h
      refine ⟨_, ?_, hpassed, _, _, rfl, routeReady_of_passes hunblocked ?_
        (factory_append hfactory (by simp)) (hsince.readClock readings) hpasses⟩
      · simp only [Since]
        rw [hlog, List.append_assoc]
      · rw [snapshots_readClock, snapshots_observed]
        simp

/-- The wait, from any round on. -/
theorem Waiting.wp_waitLoop {state : WaitState} (h : Waiting r createGate log state)
    (hnul : ∀ question snapshot, r.environment.getReadinessSnapshot question = .ok snapshot →
      NulFree snapshot)
    (expectedRoute : RouteExpectation) (signal : AbortTime) (fuel : ℕ) (hrun : Since base log run) :
    wp (waitLoop r expectedRoute signal fuel state)
      (fun snapshot run' => ∃ log', Since base log' run' ∧
        RoundEnd r createGate expectedRoute log' (.done snapshot)) (WaitFails base) run := by
  induction fuel generalizing log state run with
  | zero => exact ⟨log, hrun, h.lawful⟩
  | succ fuel ih =>
    rw [waitLoop, wp_bind]
    refine wp_mono (h.wp_waitRound hnul expectedRoute signal hrun) (fun outcome run' hround => ?_)
      fun _ _ h => h
    obtain ⟨log', hrun', hround⟩ := hround
    cases outcome with
    | done snapshot => exact ⟨log', hrun', hround⟩
    | again state => exact ih hround hrun'
    | sleep state =>
      have hwaiting : Waiting r createGate log' state := hround
      rw [wp_bind, wp_ask, wp_bind, wp_ofAnswer]
      cases r.environment.sleep run'.asked with
      | error error => exact ⟨log', hrun', hwaiting.lawful⟩
      | ok _ => exact ih hwaiting hrun'

/-- At the start of a wait. -/
theorem waiting_start (r : ReadinessController) (createGate : GateFactory) :
    Waiting r createGate [] { activeGateFactory := createGate, gate := createGate.createGate } where
  lawful := Trace.lawful_nil
  factory := by simp
  gate := ⟨[], ⟨⟨[], rfl, .inl rfl⟩, fun _ h => nomatch h⟩, gateMeets_createGate createGate⟩

/-- A route wait returns a snapshot only at the end of a ready round. -/
theorem wp_waitForRoute (hnul : ∀ question snapshot,
      r.environment.getReadinessSnapshot question = .ok snapshot → NulFree snapshot)
    (fuel : ℕ) (createGate : GateFactory) (expectedRoute : RouteExpectation) (signal : AbortTime)
    (run : ReadinessRun) :
    wp (waitForRoute r fuel createGate expectedRoute signal)
      (fun snapshot run' => ∃ log, Since run.log log run' ∧
        RoundEnd r createGate expectedRoute log (.done snapshot)) (WaitFails run.log) run := by
  have hstart : Since run.log [] { run with asked := run.asked + 1 } := by simp [Since]
  rw [waitForRoute, wp_bind]
  refine wp_throwIfAborted signal ?_ fun _ => ⟨[], by simp [Since], Trace.lawful_nil⟩
  rw [wp_bind, wp_ask, wp_rescue]
  refine wp_mono ((waiting_start r createGate).wp_waitLoop hnul expectedRoute _ fuel hstart)
    (fun _ _ h => h) fun i run' hfails => ?_
  cases i <;> exact hfails

/-- A wait that returns has seen that the route is ready, and no wait focuses a node for a snapshot
with a blocking notice. -/
theorem waitForRoute_ready (r : ReadinessController) (hnul : ∀ question snapshot,
      r.environment.getReadinessSnapshot question = .ok snapshot → NulFree snapshot)
    (fuel : ℕ) (createGate : GateFactory) (expectedRoute : RouteExpectation) (signal : AbortTime)
    (run run' : ReadinessRun) (outcome : Except (Interrupt ThrownError) ExistingReadinessSnapshot)
    (hrun : waitForRoute r fuel createGate expectedRoute signal run = (outcome, run')) :
    ∃ log, run'.log = run.log ++ log ∧ Trace.Lawful FocusesUnblocked log ∧
      ∀ snapshot, outcome = .ok snapshot → ∃ seen fresh,
        log = seen ++ [.passed expectedRoute snapshot fresh] ∧
          RouteReady r createGate seen snapshot := by
  have hspec := wp_apply (wp_waitForRoute hnul fuel createGate expectedRoute signal run)
  rw [hrun] at hspec
  cases outcome with
  | error i =>
    obtain ⟨log, hlog, hlawful⟩ := hspec
    exact ⟨log, hlog, hlawful, fun _ h => nomatch h⟩
  | ok snapshot =>
    obtain ⟨log, hlog, hlawful, hready⟩ := hspec
    refine ⟨log, hlog, hlawful, ?_⟩
    rintro _ ⟨⟩
    exact hready

/-- A page with one composer. -/
def composerPage (focused : Bool) : ExistingReadinessSnapshot where
  mainFrame := { frameId := "F", loaderId := "L", expectedRoute := true }
  eligibleEditables := [⟨7, focused⟩]
  activityEpoch := 0

/-- A controller of a page whose composer is focused from this question on. -/
def focusedFrom (question : ℕ) : ReadinessController where
  environment :=
    { getReadinessSnapshot := fun asked => .ok (composerPage (decide (question ≤ asked)))
      dismissKnownFreshNotice := fun _ => .ok ()
      focusBackendNode := fun _ => .succeeded
      sleep := fun _ => .ok ()
      clock := fun asked => asked * 100
      deadline := fun _ => none }

/-- The page is ready at its fourth snapshot, the second with the composer focused. -/
theorem waitForRoute_ready_focused : ∃ seen fresh,
    (waitForRoute (focusedFrom 5) 4 .existing .freshRoot none {}).2.log =
        seen ++ [.passed .freshRoot (composerPage true) fresh] ∧
      RouteReady (focusedFrom 5) .existing seen (composerPage true) := by
  obtain ⟨log, hlog, -, hready⟩ := waitForRoute_ready (focusedFrom 5)
    (fun _ _ h => by cases h; simp [NulFree, composerPage]) 4 .existing .freshRoot none {} _ _ rfl
  obtain ⟨seen, fresh, rfl, hseen⟩ := hready (composerPage true) (by decide)
  exact ⟨seen, fresh, hlog, hseen⟩

end ReadinessController

end Threadwire
