import Threadwire.Turn.Types

/-!
# The readiness gates

`readiness/types.ts`, `readiness/ExistingReadinessPolicy.ts` and `readiness/FreshReadinessPolicy.ts`:
what a snapshot of the page shows, and the two gates that say for a sequence of snapshots whether to
wait, to focus the composer, or that the route is ready.
-/

namespace Threadwire

/-- `ReadinessMainFrameState`. -/
structure ReadinessMainFrameState where
  frameId : String
  loaderId : String
  expectedRoute : Bool
deriving DecidableEq, Repr

/-- `ReadinessEditableTarget`. -/
structure ReadinessEditableTarget where
  backendDOMNodeId : Rat
  focused : Bool
deriving DecidableEq, Repr

/-- The `blockingNotice` of a snapshot. -/
inductive BlockingNotice where
  | ABSENT
  | UNKNOWN
  | KNOWN_FRESH_NOTICE (dialogId closeButtonId : Rat)
deriving DecidableEq, Repr

/-- `ExistingReadinessSnapshot`. Of the backend activity only the epoch is read. -/
structure ExistingReadinessSnapshot where
  mainFrame : ReadinessMainFrameState
  eligibleEditables : List ReadinessEditableTarget
  activityEpoch : Rat
  blockingNotice : Option BlockingNotice := none
deriving DecidableEq, Repr

/-- Whether the snapshot has a notice other than `ABSENT`. -/
def ExistingReadinessSnapshot.isBlocked (snapshot : ExistingReadinessSnapshot) : Bool :=
  match snapshot.blockingNotice with
  | none | some .ABSENT => false
  | some .UNKNOWN | some (.KNOWN_FRESH_NOTICE _ _) => true

/-- `ReadinessAction`. -/
inductive ReadinessAction where
  | WAIT
  | FOCUS (backendDOMNodeId : Rat)
  | READY
deriving DecidableEq, Repr

/-- `DEFAULT_EXISTING_FRAME_STABLE_OBSERVATIONS`. -/
def DEFAULT_EXISTING_FRAME_STABLE_OBSERVATIONS : ℕ := 2

/-- `DEFAULT_EXISTING_FOCUS_STABLE_OBSERVATIONS`. -/
def DEFAULT_EXISTING_FOCUS_STABLE_OBSERVATIONS : ℕ := 2

/-- `DEFAULT_FRESH_GUARD_DURATION_MS`. -/
def DEFAULT_FRESH_GUARD_DURATION_MS : Rat := 500

/-- `ExistingReadinessPolicy`: the counts are positive. -/
structure ExistingReadinessPolicy where
  frameStableObservations : ℕ := DEFAULT_EXISTING_FRAME_STABLE_OBSERVATIONS
  focusStableObservations : ℕ := DEFAULT_EXISTING_FOCUS_STABLE_OBSERVATIONS
  frame_pos : 0 < frameStableObservations := by decide
  focus_pos : 0 < focusStableObservations := by decide

/-- `FreshReadinessPolicy`: the guard's duration is not negative. -/
structure FreshReadinessPolicy where
  guardDurationMs : Rat := DEFAULT_FRESH_GUARD_DURATION_MS
  existingPolicy : ExistingReadinessPolicy := {}
  guard_nonneg : 0 ≤ guardDurationMs := by decide

/-- The fields of an `ExistingReadinessGate` that change. -/
structure ExistingReadinessGate where
  frameKey : Option String := none
  frameStableCount : ℕ := 0
  focusTargetId : Option Rat := none
  readyActivityEpoch : Option Rat := none
  focusStableCount : ℕ := 0
deriving DecidableEq, Repr

namespace ExistingReadinessGate

variable (policy : ExistingReadinessPolicy)

/-- `resetReadyEpoch`. -/
def resetReadyEpoch (gate : ExistingReadinessGate) : ExistingReadinessGate :=
  { gate with readyActivityEpoch := none, focusStableCount := 0 }

/-- `resetFocus`. -/
def resetFocus (gate : ExistingReadinessGate) : ExistingReadinessGate :=
  resetReadyEpoch { gate with focusTargetId := none }

/-- `resetAll`. -/
def resetAll (gate : ExistingReadinessGate) : ExistingReadinessGate :=
  resetFocus { gate with frameKey := none, frameStableCount := 0 }

/-- The key of the main frame. -/
def frameKeyOf (snapshot : ExistingReadinessSnapshot) : String :=
  snapshot.mainFrame.frameId ++ "\x00" ++ snapshot.mainFrame.loaderId

/-- The part of `observe` that counts how long the frame is stable. -/
def observeFrame (gate : ExistingReadinessGate) (snapshot : ExistingReadinessSnapshot) :
    ExistingReadinessGate :=
  if gate.frameKey ≠ some (frameKeyOf snapshot) then
    resetFocus { gate with frameKey := some (frameKeyOf snapshot), frameStableCount := 1 }
  else { gate with frameStableCount := gate.frameStableCount + 1 }

/-- The part of `observe` that counts how long the target is focused. -/
def observeEpoch (gate : ExistingReadinessGate) (snapshot : ExistingReadinessSnapshot) :
    ExistingReadinessGate :=
  if gate.readyActivityEpoch ≠ some snapshot.activityEpoch then
    { gate with readyActivityEpoch := some snapshot.activityEpoch, focusStableCount := 1 }
  else { gate with focusStableCount := gate.focusStableCount + 1 }

/-- The part of `observe` that looks for the target. -/
def observeFocus (gate : ExistingReadinessGate) (snapshot : ExistingReadinessSnapshot) :
    ReadinessAction × ExistingReadinessGate :=
  match snapshot.eligibleEditables with
  | [target] =>
    if gate.focusTargetId ≠ some target.backendDOMNodeId then
      (.FOCUS target.backendDOMNodeId,
        resetReadyEpoch { gate with focusTargetId := some target.backendDOMNodeId })
    else if !target.focused then (.FOCUS target.backendDOMNodeId, resetReadyEpoch gate)
    else
      let gate := observeEpoch gate snapshot
      if gate.focusStableCount < policy.focusStableObservations then (.WAIT, gate)
      else (.READY, gate)
  | _ => (.WAIT, resetFocus gate)

/-- `observe`. -/
def observe (gate : ExistingReadinessGate) (snapshot : ExistingReadinessSnapshot) :
    ReadinessAction × ExistingReadinessGate :=
  if !snapshot.mainFrame.expectedRoute then (.WAIT, resetAll gate)
  else
    let gate := observeFrame gate snapshot
    if gate.frameStableCount < policy.frameStableObservations then (.WAIT, gate)
    else observeFocus policy gate snapshot

end ExistingReadinessGate

/-- The fields of a `FreshReadinessGate` that change. -/
structure FreshReadinessGate where
  existingGate : ExistingReadinessGate := {}
  guardStartTime : Option Rat := none
deriving DecidableEq, Repr

namespace FreshReadinessGate

variable (policy : FreshReadinessPolicy)

/-- The part of `observe` after a `READY` of the inner gate, at this time of the clock. -/
def guard (gate : FreshReadinessGate) (now : Rat) : ReadinessAction × FreshReadinessGate :=
  let guardStartTime := gate.guardStartTime.getD now
  (if policy.guardDurationMs ≤ now - guardStartTime then .READY else .WAIT,
    { gate with guardStartTime := some guardStartTime })

end FreshReadinessGate

end Threadwire
