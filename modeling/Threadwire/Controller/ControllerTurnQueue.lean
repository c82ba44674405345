import Mathlib.Logic.Function.Basic
import Threadwire.Machine.Runs
import Threadwire.Machine.Trace
import Threadwire.Routing.OperationScheduler

/-!
# The controller's turn queue

`controller/ControllerTurnQueue.ts`: a bounded queue whose entries run one at a time.

A call of `schedule` or `drain` and the abort listener of an entry run without interruption, so each
is one step. What happens later is queued here: the calls of `drain` that are microtasks, and the
promise chain of each entry that has started (the microtask that calls its operation, the operation,
the microtask that settles the entry's promise, and that of `finally`). Microtasks run in any order.
A signal that aborts calls its listeners one after another, and anything that another listener of it
may do can happen between them; so the abort and the call of each listener are steps of their own.
What an operation does synchronously when it is called (schedule, abort, throw) are steps right after
the one that called it.
-/

namespace Threadwire

/-- `PendingTurn`: its signal, whether it started, and whether its abort listener is registered. -/
structure PendingTurn where
  signal : Option SignalId
  started : Bool := false
  onAbort : Bool := false
deriving DecidableEq, Repr

/-- How far the promise chain of a started entry is. -/
inductive TurnStage (α : Type) where
  | invoking
  | running
  | settling (outcome : Except ThrownError α)
  | finishing

/-- What happens at the queue's interface. A promise is named by the entry it is of; `refused` is the
throw of a `ControllerBusyError`. -/
inductive TurnQueueEvent (α : Type) where
  | refused
  | scheduled (id : ℕ) (signal : Option SignalId)
  | aborted (signal : SignalId)
  | started (id : ℕ)
  | invoked (id : ℕ)
  | completed (id : ℕ) (outcome : Except ThrownError α)
  | settled (id : ℕ) (outcome : Except ThrownError α)

/-- `ControllerTurnQueue`, with the entries it created, the promise chains of those that started, the
number of queued calls of `drain`, the aborted signals, and the log. -/
structure ControllerTurnQueue (α : Type) where
  maxOutstandingTurns : ℕ
  pending : List ℕ := []
  active : Bool := false
  entries : ℕ → PendingTurn := fun _ => { signal := none }
  promises : ℕ := 0
  chains : List (ℕ × TurnStage α) := []
  drains : ℕ := 0
  aborted : SignalId → Bool := fun _ => false
  log : List (TurnQueueEvent α) := []

/-- What the environment does. A chain is named by its position. -/
inductive TurnQueueInput (α : Type) where
  | schedule (signal : Option SignalId)
  | abort (signal : SignalId)
  | onAbort (id : ℕ)
  | drain
  | invoke (chain : ℕ)
  | complete (chain : ℕ) (outcome : Except ThrownError α)
  | settle (chain : ℕ)
  | finish (chain : ℕ)

namespace ControllerTurnQueue

variable {α : Type}

/-- The number of entries that are pending or active. -/
def outstanding (s : ControllerTurnQueue α) : ℕ := s.pending.length + if s.active then 1 else 0

/-- `signal?.aborted`. -/
def isAborted (s : ControllerTurnQueue α) (signal : Option SignalId) : Bool := signal.any s.aborted

/-- Settle the promise of an entry. -/
def settle (s : ControllerTurnQueue α) (id : ℕ) (outcome : Except ThrownError α) :
    ControllerTurnQueue α :=
  { s with log := s.log ++ [.settled id outcome] }

/-- Reject the promise of an entry with `new OperationAbortedError()`. -/
def rejectAborted (s : ControllerTurnQueue α) (id : ℕ) : ControllerTurnQueue α :=
  s.settle id (.error (.ofCode .operationAborted))

/-- `drain`. -/
def drain (s : ControllerTurnQueue α) : ControllerTurnQueue α :=
  if s.active then s
  else
    match s.pending with
    | [] => s
    | id :: rest =>
      let entry := s.entries id
      let s := { s with
        pending := rest
        entries := Function.update s.entries id { entry with started := true, onAbort := false } }
      if s.isAborted entry.signal then { s.rejectAborted id with drains := s.drains + 1 }
      else { s with
        active := true
        chains := s.chains ++ [(id, .invoking)]
        log := s.log ++ [.started id] }

/-- A new promise, of an entry that listens to its signal where it is pending. -/
def enroll (s : ControllerTurnQueue α) (signal : Option SignalId) (onAbort : Bool) :
    ControllerTurnQueue α :=
  { s with
    entries := Function.update s.entries s.promises { signal, onAbort }
    promises := s.promises + 1
    log := s.log ++ [.scheduled s.promises signal] }

/-- `schedule`. -/
def schedule (s : ControllerTurnQueue α) (signal : Option SignalId) : ControllerTurnQueue α :=
  if s.maxOutstandingTurns ≤ s.outstanding then { s with log := s.log ++ [.refused] }
  else if s.isAborted signal then (s.enroll signal false).rejectAborted s.promises
  else drain { s.enroll signal signal.isSome with pending := s.pending ++ [s.promises] }

/-- The abort listener of an entry. -/
def onAbort (s : ControllerTurnQueue α) (id : ℕ) : ControllerTurnQueue α :=
  if (s.entries id).started then s
  else
    drain <| rejectAborted
      { s with
        pending := s.pending.erase id
        entries := Function.update s.entries id { s.entries id with onAbort := false } } id

/-- One step of the system; `none` where the input cannot occur. -/
def step (s : ControllerTurnQueue α) : TurnQueueInput α → Option (ControllerTurnQueue α)
  | .schedule signal => some (s.schedule signal)
  | .abort signal =>
    if s.aborted signal then some s
    else some { s with
      aborted := Function.update s.aborted signal true, log := s.log ++ [.aborted signal] }
  | .onAbort id =>
    if (s.entries id).onAbort && s.isAborted (s.entries id).signal then some (s.onAbort id) else none
  | .drain => if s.drains = 0 then none else some (drain { s with drains := s.drains - 1 })
  | .invoke chain =>
    match s.chains[chain]? with
    | some (id, .invoking) =>
      some { s with chains := s.chains.set chain (id, .running), log := s.log ++ [.invoked id] }
    | _ => none
  | .complete chain outcome =>
    match s.chains[chain]? with
    | some (id, .running) =>
      some { s with
        chains := s.chains.set chain (id, .settling outcome)
        log := s.log ++ [.completed id outcome] }
    | _ => none
  | .settle chain =>
    match s.chains[chain]? with
    | some (id, .settling outcome) =>
      some { s.settle id outcome with chains := s.chains.set chain (id, .finishing) }
    | _ => none
  | .finish chain =>
    match s.chains[chain]? with
    | some (_, .finishing) =>
      some (drain { s with chains := s.chains.eraseIdx chain, active := false })
    | _ => none

/-- A queue that a run can lead to. -/
def Reachable (maxOutstandingTurns : ℕ) (s : ControllerTurnQueue α) : Prop :=
  ∃ inputs, Machine.exec step { maxOutstandingTurns } inputs = some s

end ControllerTurnQueue

end Threadwire
