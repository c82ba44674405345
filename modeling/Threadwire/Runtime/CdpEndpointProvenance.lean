import Threadwire.Domain.RuntimeGeneration

/-!
# The provenance of the CDP endpoint

`runtime/CdpEndpointProvenance.ts`: an observation of the listener of the configured endpoint is
accepted where its owner descends from the process of the lease. That the output of the command is
JSON whose fields have the right types is taken as part of the command's outcome.
-/

namespace Threadwire

/-- `MAX_ANCESTRY_DEPTH`. -/
def MAX_ANCESTRY_DEPTH : ℕ := 64

/-- The endpoint of a `ControllerConfig`. -/
structure CdpEndpointConfig where
  cdpHost : String
  cdpPort : ℕ
deriving DecidableEq, Repr

/-- `ObservedProcessIdentity`. -/
structure ObservedProcessIdentity extends RuntimeIdentity where
  parentPid : ℕ
deriving DecidableEq, Repr

/-- `ListenerSnapshot`. -/
structure ListenerSnapshot where
  listenerCount : ℕ
  localAddress : String
  localPort : ℕ
  ownerPid : ℕ
deriving DecidableEq, Repr

/-- The output of the command. -/
structure ListenerProvenanceOutput where
  listenerA : ListenerSnapshot
  chainA : List ObservedProcessIdentity
  listenerB : ListenerSnapshot
  chainB : List ObservedProcessIdentity
deriving DecidableEq, Repr

/-- `ListenerProvenanceObservation`. -/
structure ListenerProvenanceObservation extends ListenerProvenanceOutput where
  ownerIdentity : RuntimeIdentity
deriving DecidableEq, Repr

namespace ListenerProvenance

/-- `new RuntimeProvenanceUnverifiedError()`. -/
def unverified : ThrownError := .ofCode .runtimeProvenanceUnverified

/-- `parseProcess`. -/
def parseProcess (process : ObservedProcessIdentity) : Except ThrownError ObservedProcessIdentity :=
  if process.pid = 0 then .error unverified else .ok process

/-- `parseListenerSnapshot`. -/
def parseListenerSnapshot (listener : ListenerSnapshot) (expectedEndpoint : CdpEndpointConfig) :
    Except ThrownError ListenerSnapshot :=
  if listener.ownerPid = 0 then .error unverified
  else if listener.listenerCount ≠ 1 ∨ listener.localAddress ≠ expectedEndpoint.cdpHost ∨
      listener.localPort ≠ expectedEndpoint.cdpPort then
    .error unverified
  else .ok listener

/-- Each process of the chain is the child of the next one, and younger. -/
def linked : List ObservedProcessIdentity → Bool
  | child :: parent :: chain =>
    child.parentPid == parent.pid && !decide (child.creationTime ≤ parent.creationTime) &&
      linked (parent :: chain)
  | [_] | [] => true

/-- `parseAncestry`. -/
def parseAncestry (processes : List ObservedProcessIdentity) (ownerPid : ℕ)
    (expectedLease : RuntimeLease) : Except ThrownError (List ObservedProcessIdentity) := do
  let chain ← processes.mapM parseProcess
  if chain.length > MAX_ANCESTRY_DEPTH ∨ chain.head?.map (fun process => process.pid) ≠ some ownerPid then
    throw unverified
  if ¬ (chain.map fun process => process.pid).Nodup then throw unverified
  if !linked chain then throw unverified
  match chain.getLast? with
  | none => throw unverified
  | some root =>
    if !sameRuntimeIdentity root.toRuntimeIdentity expectedLease.identity then throw unverified
    pure chain

/-- `parseListenerProvenanceOutput`. -/
def parseListenerProvenanceOutput (output : ListenerProvenanceOutput)
    (expectedEndpoint : CdpEndpointConfig) (expectedLease : RuntimeLease) :
    Except ThrownError ListenerProvenanceObservation := do
  let listenerA ← parseListenerSnapshot output.listenerA expectedEndpoint
  let listenerB ← parseListenerSnapshot output.listenerB expectedEndpoint
  if listenerA.ownerPid ≠ listenerB.ownerPid then throw unverified
  let chainA ← parseAncestry output.chainA listenerA.ownerPid expectedLease
  let chainB ← parseAncestry output.chainB listenerB.ownerPid expectedLease
  if chainA ≠ chainB then throw unverified
  match chainB with
  | [] => throw unverified
  | owner :: _ =>
    pure { listenerA, chainA, listenerB, chainB, ownerIdentity := owner.toRuntimeIdentity }

/-- The ancestry of the observed listener's owner is rooted at the identity. -/
structure RootedAt (observation : ListenerProvenanceObservation) (identity : RuntimeIdentity) :
    Prop where
  owner : ∃ owner ∈ observation.chainB.head?, owner.toRuntimeIdentity = observation.ownerIdentity
  ancestry : linked observation.chainB = true
  root : ∃ root ∈ observation.chainB.getLast?, root.toRuntimeIdentity = identity

/-- A check that throws, and goes on where it passes. -/
theorem check_eq_ok {α : Type} {c : Prop} [Decidable c] {error : ThrownError}
    {rest : Except ThrownError α} {a : α} :
    (do if c then throw error
        rest) = Except.ok a ↔ ¬ c ∧ rest = .ok a := by
  by_cases hc : c
  · simp [hc, bind, Except.bind, throw, throwThe, MonadExceptOf.throw]
  · simp [hc]

theorem parseAncestry_eq_ok {processes chain : List ObservedProcessIdentity} {ownerPid : ℕ}
    {lease : RuntimeLease} (h : parseAncestry processes ownerPid lease = .ok chain) :
    linked chain = true ∧ ∃ root ∈ chain.getLast?, root.toRuntimeIdentity = lease.identity := by
  unfold parseAncestry at h
  cases hparsed : processes.mapM parseProcess with
  | error error =>
    rw [hparsed] at h
    cases h
  | ok parsed =>
    rw [hparsed] at h
    obtain ⟨-, h⟩ := check_eq_ok.mp h
    obtain ⟨-, h⟩ := check_eq_ok.mp h
    obtain ⟨hlinked, h⟩ := check_eq_ok.mp h
    split at h
    · cases h
    · rename_i root hroot
      obtain ⟨hsame, h⟩ := check_eq_ok.mp h
      cases h
      have hidentity : root.toRuntimeIdentity = lease.identity := by simpa using hsame
      exact ⟨by simpa using hlinked, root, hroot, hidentity⟩

/-- An accepted observation is rooted at the identity of the lease. -/
theorem rootedAt_of_parse {output : ListenerProvenanceOutput} {endpoint : CdpEndpointConfig}
    {lease : RuntimeLease} {observation : ListenerProvenanceObservation}
    (h : parseListenerProvenanceOutput output endpoint lease = .ok observation) :
    RootedAt observation lease.identity := by
  unfold parseListenerProvenanceOutput at h
  -- Every part of the output was read, or it was not accepted.
  cases hA : parseListenerSnapshot output.listenerA endpoint with
  | error error =>
    rw [hA] at h
    cases h
  | ok listenerA =>
  cases hB : parseListenerSnapshot output.listenerB endpoint with
  | error error =>
    rw [hA, hB] at h
    cases h
  | ok listenerB =>
  rw [hA, hB] at h
  obtain ⟨-, h⟩ := check_eq_ok.mp h
  cases hchainA : parseAncestry output.chainA listenerA.ownerPid lease with
  | error error =>
    rw [hchainA] at h
    cases h
  | ok chainA =>
  cases hchainB : parseAncestry output.chainB listenerB.ownerPid lease with
  | error error =>
    rw [hchainA, hchainB] at h
    cases h
  | ok chainB =>
  rw [hchainA, hchainB] at h
  obtain ⟨-, h⟩ := check_eq_ok.mp h
  -- Both ancestries are checked, and the second one is returned.
  obtain ⟨hlinked, hroot⟩ := parseAncestry_eq_ok hchainB
  cases chainB with
  | nil => cases h
  | cons owner chain =>
    cases h
    exact ⟨⟨owner, rfl, rfl⟩, hlinked, hroot⟩

end ListenerProvenance

end Threadwire
