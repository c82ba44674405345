import Mathlib.Data.List.Chain
import Mathlib.Data.List.Forall2
import Mathlib.Logic.Relation
import Threadwire.Machine.Runs
import Threadwire.Runtime.CdpEndpointProvenance
import Threadwire.Text.JsonNumber
import Threadwire.Text.Strings

/-!
# The output of the listener command

The parser of `runtime/CdpEndpointProvenance.ts`, from the text the command printed: the JSON is
decoded and checked, and what it accepts is exactly a text that proves who owns the endpoint.

Two things the language leaves to the platform are parameters: which times in the canonical format
`Date.parse` takes for a date, and the error `JSON.parse` throws.
-/

namespace Threadwire

/-- What the language leaves to the platform. -/
structure OutputPlatform where
  isDate : Text → Bool
  syntaxError : Text → ThrownError

namespace ListenerProvenanceOutput

open ListenerProvenance

/-- `isRecord`. -/
def isRecord : Json.Value → Bool
  | .object _ => true
  | _ => false

/-- The value of a number that is a safe integer. -/
def safeInteger? : Option Json.Value → Option ℤ
  | some (.number spelling) => Json.safeInteger? spelling
  | _ => none

/-- `CANONICAL_CREATION_TIME`. -/
def isCanonicalCreationTime (text : Text) : Bool :=
  let format := Text.of "0000-00-00T00:00:00.0000000Z"
  text.length == format.length &&
    (text.zip format).all fun (c, f) => if f = 0x30 then Json.isDigit c else c == f

/-- The string of units that are all ASCII characters. -/
def asciiString (text : Text) : String := String.ofList (text.map fun c => Char.ofNat c.toNat)

/-- `parsePositivePid`. -/
def parsePositivePid (value : Option Json.Value) : Except ThrownError ℕ :=
  match safeInteger? value with
  | some pid => if pid ≤ 0 then .error unverified else .ok pid.toNat
  | none => .error unverified

section Parsers

variable (platform : OutputPlatform)

/-- `parseProcess`. -/
def parseProcess (value : Json.Value) : Except ThrownError ObservedProcessIdentity := do
  if !isRecord value then throw unverified
  let pid ← parsePositivePid (value.property? (Text.of "pid"))
  match safeInteger? (value.property? (Text.of "parentPid")),
    value.property? (Text.of "creationTime") with
  | some parentPid, some (.string creationTime) =>
    if parentPid < 0 ∨ isCanonicalCreationTime creationTime = false ∨
        platform.isDate creationTime = false then
      throw unverified
    pure { pid, parentPid := parentPid.toNat, creationTime := asciiString creationTime }
  | _, _ => throw unverified

/-- `parseListenerSnapshot`. A field that is missing has no properties either. -/
def parseListenerSnapshot (value : Option Json.Value) (expectedEndpoint : CdpEndpointConfig) :
    Except ThrownError ListenerSnapshot := do
  let value := value.getD .null
  if !isRecord value then throw unverified
  let ownerPid ← parsePositivePid (value.property? (Text.of "ownerPid"))
  match value.property? (Text.of "localAddress") with
  | some (.string localAddress) =>
    if safeInteger? (value.property? (Text.of "listenerCount")) ≠ some 1 ∨
        localAddress ≠ Text.of expectedEndpoint.cdpHost ∨
        safeInteger? (value.property? (Text.of "localPort")) ≠ some (expectedEndpoint.cdpPort : ℤ) then
      throw unverified
    pure { listenerCount := 1, localAddress := expectedEndpoint.cdpHost,
           localPort := expectedEndpoint.cdpPort, ownerPid }
  | _ => throw unverified

/-- What `parseAncestry` requires of the parsed processes. -/
def checkAncestry (chain : List ObservedProcessIdentity) (ownerPid : ℕ)
    (expectedLease : RuntimeLease) : Except ThrownError Unit := do
  if chain.length = 0 ∨ MAX_ANCESTRY_DEPTH < chain.length ∨
      chain.head?.map (fun process => process.pid) ≠ some ownerPid then
    throw unverified
  if ¬ (chain.map fun process => process.pid).Nodup then throw unverified
  if !linked chain then throw unverified
  if chain.getLast?.map (fun root => root.toRuntimeIdentity) ≠ some expectedLease.identity then
    throw unverified
  pure ()

/-- `parseAncestry`. -/
def parseAncestry (value : Option Json.Value) (ownerPid : ℕ) (expectedLease : RuntimeLease) :
    Except ThrownError (List ObservedProcessIdentity) :=
  match value with
  | some (.array processes) => do
    let chain ← processes.mapM (parseProcess platform)
    checkAncestry chain ownerPid expectedLease
    pure chain
  | _ => .error unverified

/-- `parseListenerProvenanceOutput`. -/
def parseListenerProvenanceOutput (output : Text) (expectedEndpoint : CdpEndpointConfig)
    (expectedLease : RuntimeLease) : Except ThrownError ListenerProvenanceObservation :=
  match Json.parse output with
  | none => .error (unverified.withCause (some (platform.syntaxError output)))
  | some parsed => do
    if !isRecord parsed then throw unverified
    let listenerA ← parseListenerSnapshot (parsed.property? (Text.of "listenerA")) expectedEndpoint
    let listenerB ← parseListenerSnapshot (parsed.property? (Text.of "listenerB")) expectedEndpoint
    if listenerA.ownerPid ≠ listenerB.ownerPid then throw unverified
    let chainA ← parseAncestry platform (parsed.property? (Text.of "chainA")) listenerA.ownerPid
      expectedLease
    let chainB ← parseAncestry platform (parsed.property? (Text.of "chainB")) listenerB.ownerPid
      expectedLease
    if chainA ≠ chainB then throw unverified
    match chainB with
    | [] => throw unverified
    | owner :: _ =>
      pure { listenerA, chainA, listenerB, chainB, ownerIdentity := owner.toRuntimeIdentity }

end Parsers

/-! ## What an accepted output says -/

section Meaning

variable {platform : OutputPlatform} {endpoint : CdpEndpointConfig} {lease : RuntimeLease}

/-- A record describes a process: its pids are safe integers, its own a positive one, and its
creation time is a date in the canonical format. -/
structure Describes (platform : OutputPlatform) (value : Json.Value)
    (process : ObservedProcessIdentity) : Prop where
  record : isRecord value = true
  pid : safeInteger? (value.property? (Text.of "pid")) = some (process.pid : ℤ)
  positive : 0 < process.pid
  parentPid : safeInteger? (value.property? (Text.of "parentPid")) = some (process.parentPid : ℤ)
  creationTime : ∃ units, value.property? (Text.of "creationTime") = some (.string units) ∧
    isCanonicalCreationTime units = true ∧ platform.isDate units = true ∧
    process.creationTime = asciiString units

/-- A record reports exactly one listener at the endpoint, and its owner. -/
structure Reports (value : Option Json.Value) (endpoint : CdpEndpointConfig) (ownerPid : ℕ) :
    Prop where
  record : isRecord (value.getD .null) = true
  listenerCount :
    safeInteger? ((value.getD .null).property? (Text.of "listenerCount")) = some 1
  localAddress :
    (value.getD .null).property? (Text.of "localAddress") = some (.string (Text.of endpoint.cdpHost))
  localPort :
    safeInteger? ((value.getD .null).property? (Text.of "localPort")) = some (endpoint.cdpPort : ℤ)
  owner : safeInteger? ((value.getD .null).property? (Text.of "ownerPid")) = some (ownerPid : ℤ)
  positive : 0 < ownerPid

/-- A list of records describes the processes of a chain. -/
def Lists (platform : OutputPlatform) (value : Option Json.Value)
    (chain : List ObservedProcessIdentity) : Prop :=
  ∃ values, value = some (.array values) ∧ List.Forall₂ (Describes platform) values chain

/-- A chain of processes leads from the owner to the runtime of the lease, each of them the child of
the next one and younger. -/
structure ProvesOwnership (chain : List ObservedProcessIdentity) (ownerPid : ℕ)
    (lease : RuntimeLease) : Prop where
  length : 1 ≤ chain.length ∧ chain.length ≤ 64
  owner : chain.head?.map (fun process => process.pid) = some ownerPid
  distinct : (chain.map fun process => process.pid).Nodup
  linked : ∀ (i : ℕ) child parent, chain[i]? = some child → chain[i + 1]? = some parent →
    child.parentPid = parent.pid ∧ parent.creationTime < child.creationTime
  root : chain.getLast?.map (fun root => root.toRuntimeIdentity) = some lease.identity

/-- An output proves ownership: both observations of the listener report the same owner, and both
observations of its ancestry the same chain up to the runtime of the lease. -/
structure Proves (platform : OutputPlatform) (output : Text) (endpoint : CdpEndpointConfig)
    (lease : RuntimeLease) (ownerPid : ℕ) (chain : List ObservedProcessIdentity) : Prop where
  parsed : ∃ value, Json.parse output = some value ∧ isRecord value = true ∧
    Reports (value.property? (Text.of "listenerA")) endpoint ownerPid ∧
    Reports (value.property? (Text.of "listenerB")) endpoint ownerPid ∧
    Lists platform (value.property? (Text.of "chainA")) chain ∧
    Lists platform (value.property? (Text.of "chainB")) chain
  chain : ProvesOwnership chain ownerPid lease

/-! ## The parsers accept what proves ownership -/

/-- A traversal that succeeds has succeeded at every element. -/
theorem mapM_eq_ok {α β ε : Type} {f : α → Except ε β} {l : List α} {m : List β} :
    l.mapM f = .ok m ↔ List.Forall₂ (fun a b => f a = .ok b) l m := by
  induction l generalizing m with
  | nil =>
    rw [List.mapM_nil, List.forall₂_nil_left_iff]
    exact ⟨fun h => (Except.ok.inj h).symm, fun h => congrArg Except.ok h.symm⟩
  | cons a l ih =>
    rw [List.mapM_cons, List.forall₂_cons_left_iff]
    cases ha : f a with
    | error e => simp [bind, Except.bind]
    | ok b =>
      cases hl : l.mapM f with
      | error e => simp [bind, Except.bind, ← ih, hl]
      | ok m' =>
        simp only [bind, Except.bind, pure, Except.pure, Except.ok.injEq, ← ih, hl]
        constructor
        · rintro rfl
          exact ⟨b, m', rfl, rfl, rfl⟩
        · rintro ⟨_, _, rfl, rfl, rfl⟩
          rfl

theorem parsePositivePid_eq_ok {value : Option Json.Value} {pid : ℕ} :
    parsePositivePid value = .ok pid ↔ safeInteger? value = some (pid : ℤ) ∧ 0 < pid := by
  unfold parsePositivePid
  cases safeInteger? value with
  | none => simp
  | some n =>
    by_cases hn : n ≤ 0
    · simp only [if_pos hn, reduceCtorEq, Option.some.injEq, false_iff]
      omega
    · simp only [if_neg hn, Except.ok.injEq, Option.some.injEq]
      omega

/-- A sequence of parsers succeeds where each of them does. -/
theorem bind_eq_ok {α β : Type} {x : Except ThrownError α} {f : α → Except ThrownError β} {b : β} :
    (x >>= f) = .ok b ↔ ∃ a, x = .ok a ∧ f a = .ok b := by
  cases x with
  | error e => simp [bind, Except.bind]
  | ok a => simp [bind, Except.bind]

theorem parseProcess_eq_ok {value : Json.Value} {process : ObservedProcessIdentity} :
    parseProcess platform value = .ok process ↔ Describes platform value process := by
  unfold parseProcess
  rw [check_eq_ok, bind_eq_ok]
  constructor
  · rintro ⟨hrecord, pid, hpid, h⟩
    obtain ⟨hpid, hpositive⟩ := parsePositivePid_eq_ok.mp hpid
    split at h
    · rename_i parentPid creationTime hparent htime
      obtain ⟨hchecks, h⟩ := check_eq_ok.mp h
      cases h
      simp only [not_or, Bool.not_eq_false] at hchecks
      obtain ⟨hsign, hcanonical, hdate⟩ := hchecks
      refine ⟨by simpa using hrecord, hpid, hpositive, ?_, creationTime, htime, hcanonical, hdate, rfl⟩
      rw [hparent, Int.toNat_of_nonneg (by omega)]
    · cases h
  · rintro ⟨hrecord, hpid, hpositive, hparent, units, htime, hcanonical, hdate, hcreation⟩
    refine ⟨by simp [hrecord], process.pid, parsePositivePid_eq_ok.mpr ⟨hpid, hpositive⟩, ?_⟩
    rw [hparent, htime]
    refine check_eq_ok.mpr ⟨by simp [hcanonical, hdate], ?_⟩
    rw [← hcreation]
    rfl

theorem parseListenerSnapshot_eq_ok {value : Option Json.Value} {listener : ListenerSnapshot} :
    parseListenerSnapshot value endpoint = .ok listener ↔
      Reports value endpoint listener.ownerPid ∧ listener =
        { listenerCount := 1, localAddress := endpoint.cdpHost, localPort := endpoint.cdpPort,
          ownerPid := listener.ownerPid } := by
  unfold parseListenerSnapshot
  rw [check_eq_ok, bind_eq_ok]
  constructor
  · rintro ⟨hrecord, ownerPid, howner, h⟩
    obtain ⟨howner, hpositive⟩ := parsePositivePid_eq_ok.mp howner
    split at h
    · rename_i localAddress haddress
      obtain ⟨hchecks, h⟩ := check_eq_ok.mp h
      cases h
      simp only [not_or, not_not] at hchecks
      obtain ⟨hcount, hlocal, hport⟩ := hchecks
      exact ⟨⟨by simpa using hrecord, hcount, hlocal ▸ haddress, hport, howner, hpositive⟩, rfl⟩
    · cases h
  · rintro ⟨⟨hrecord, hcount, haddress, hport, howner, hpositive⟩, heq⟩
    refine ⟨by simp [hrecord], listener.ownerPid,
      parsePositivePid_eq_ok.mpr ⟨howner, hpositive⟩, ?_⟩
    rw [haddress]
    refine check_eq_ok.mpr ⟨by simp [hcount, hport], ?_⟩
    rw [← heq]
    rfl

/-- The links of a chain, position by position. -/
theorem linked_iff {chain : List ObservedProcessIdentity} :
    linked chain = true ↔ ∀ (i : ℕ) child parent, chain[i]? = some child →
      chain[i + 1]? = some parent →
        child.parentPid = parent.pid ∧ parent.creationTime < child.creationTime := by
  induction chain with
  | nil => simp [linked]
  | cons first chain ih =>
    cases chain with
    | nil => simp [linked]
    | cons second chain =>
      have hlink : linked (first :: second :: chain) = true ↔
          (first.parentPid = second.pid ∧ second.creationTime < first.creationTime) ∧
            linked (second :: chain) = true := by
        simp [linked, and_assoc]
      rw [hlink, ih]
      constructor
      · rintro ⟨hfirst, hrest⟩ i child parent hchild hparent
        cases i with
        | zero =>
          cases hchild
          cases hparent
          exact hfirst
        | succ i => exact hrest i child parent hchild hparent
      · intro hall
        exact ⟨hall 0 first second rfl rfl, fun i child parent hchild hparent =>
          hall (i + 1) child parent hchild hparent⟩

theorem checkAncestry_eq_ok {chain : List ObservedProcessIdentity} {ownerPid : ℕ} :
    checkAncestry chain ownerPid lease = .ok () ↔ ProvesOwnership chain ownerPid lease := by
  unfold checkAncestry
  rw [check_eq_ok, check_eq_ok, check_eq_ok, check_eq_ok]
  simp only [not_or, not_not, Nat.not_lt, MAX_ANCESTRY_DEPTH, Bool.not_eq_true', Bool.not_eq_false]
  constructor
  · rintro ⟨⟨hnonempty, hdepth, howner⟩, hdistinct, hlinked, hroot, -⟩
    exact ⟨⟨Nat.pos_of_ne_zero hnonempty, hdepth⟩, howner, hdistinct, linked_iff.mp hlinked, hroot⟩
  · rintro ⟨⟨hnonempty, hdepth⟩, howner, hdistinct, hlinked, hroot⟩
    exact ⟨⟨Nat.pos_iff_ne_zero.mp hnonempty, hdepth, howner⟩, hdistinct, linked_iff.mpr hlinked,
      hroot, rfl⟩

theorem parseAncestry_eq_ok {value : Option Json.Value} {ownerPid : ℕ}
    {chain : List ObservedProcessIdentity} :
    parseAncestry platform value ownerPid lease = .ok chain ↔
      Lists platform value chain ∧ ProvesOwnership chain ownerPid lease := by
  unfold parseAncestry
  split
  · rename_i values
    rw [bind_eq_ok]
    simp only [mapM_eq_ok, parseProcess_eq_ok, bind_eq_ok]
    constructor
    · rintro ⟨parsed, hparsed, _, hcheck, h⟩
      cases h
      exact ⟨⟨values, rfl, hparsed⟩, checkAncestry_eq_ok.mp hcheck⟩
    · rintro ⟨⟨_, heq, hlist⟩, hchain⟩
      cases heq
      exact ⟨chain, hlist, (), checkAncestry_eq_ok.mpr hchain, rfl⟩
  · rename_i hnone
    constructor
    · intro h
      cases h
    · rintro ⟨⟨values, rfl, -⟩, -⟩
      exact absurd rfl (hnone values)

/-- The observation the parser makes of an output that proves ownership. -/
def observationOf (endpoint : CdpEndpointConfig) (ownerPid : ℕ) (owner : ObservedProcessIdentity)
    (chain : List ObservedProcessIdentity) : ListenerProvenanceObservation :=
  let listener : ListenerSnapshot :=
    { listenerCount := 1, localAddress := endpoint.cdpHost, localPort := endpoint.cdpPort, ownerPid }
  { listenerA := listener, chainA := chain, listenerB := listener, chainB := chain
    ownerIdentity := owner.toRuntimeIdentity }

/-- The parser accepts exactly the outputs that prove ownership. -/
theorem parseListenerProvenanceOutput_eq_ok {output : Text}
    {observation : ListenerProvenanceObservation} :
    parseListenerProvenanceOutput platform output endpoint lease = .ok observation ↔
      ∃ ownerPid owner others, Proves platform output endpoint lease ownerPid (owner :: others) ∧
        observation = observationOf endpoint ownerPid owner (owner :: others) := by
  unfold parseListenerProvenanceOutput
  cases hparse : Json.parse output with
  | none =>
    constructor
    · intro h
      cases h
    · rintro ⟨_, _, _, ⟨⟨_, hparsed, -⟩, -⟩, -⟩
      rw [hparse] at hparsed
      cases hparsed
  | some value =>
    dsimp only
    rw [check_eq_ok, bind_eq_ok]
    constructor
    · -- Each check that passed gives one conjunct, and the second half of the output repeats the
      -- first.
      rintro ⟨hrecord, listenerA, hA, h⟩
      obtain ⟨listenerB, hB, h⟩ := bind_eq_ok.mp h
      obtain ⟨hsame, h⟩ := check_eq_ok.mp h
      obtain ⟨chainA, hchainA, h⟩ := bind_eq_ok.mp h
      obtain ⟨chainB, hchainB, h⟩ := bind_eq_ok.mp h
      obtain ⟨hequal, h⟩ := check_eq_ok.mp h
      obtain ⟨hA, hlistenerA⟩ := parseListenerSnapshot_eq_ok.mp hA
      obtain ⟨hB, hlistenerB⟩ := parseListenerSnapshot_eq_ok.mp hB
      obtain ⟨hlistA, hownerA⟩ := parseAncestry_eq_ok.mp hchainA
      obtain ⟨hlistB, -⟩ := parseAncestry_eq_ok.mp hchainB
      obtain rfl : chainA = chainB := not_not.mp hequal
      rw [← not_not.mp hsame] at hB hlistenerB
      cases chainA with
      | nil => cases h
      | cons owner others =>
        cases h
        refine ⟨listenerA.ownerPid, owner, others,
          ⟨⟨value, hparse, by simpa using hrecord, hA, hB, hlistA, hlistB⟩, hownerA⟩, ?_⟩
        rw [observationOf, ← hlistenerA, hlistenerB, ← hlistenerA]
    · rintro ⟨ownerPid, owner, others, ⟨⟨_, hparsed, hrecord, hA, hB, hlistA, hlistB⟩, hchain⟩, rfl⟩
      rw [hparse] at hparsed
      cases hparsed
      have hlistener : ∀ value, Reports value endpoint ownerPid →
          parseListenerSnapshot value endpoint = .ok
            { listenerCount := 1, localAddress := endpoint.cdpHost, localPort := endpoint.cdpPort,
              ownerPid } :=
        fun value h => parseListenerSnapshot_eq_ok.mpr ⟨h, rfl⟩
      -- In this direction each check is met in turn.
      refine ⟨by simp [hrecord], _, hlistener _ hA, ?_⟩
      refine bind_eq_ok.mpr ⟨_, hlistener _ hB, ?_⟩
      refine check_eq_ok.mpr ⟨not_not.mpr rfl, ?_⟩
      refine bind_eq_ok.mpr ⟨_, parseAncestry_eq_ok.mpr ⟨hlistA, hchain⟩, ?_⟩
      refine bind_eq_ok.mpr ⟨_, parseAncestry_eq_ok.mpr ⟨hlistB, hchain⟩, ?_⟩
      exact check_eq_ok.mpr ⟨not_not.mpr rfl, rfl⟩

/-! ## What follows for an accepted chain -/

/-- One process is the child of another, and younger. -/
def ChildOf (child parent : ObservedProcessIdentity) : Prop :=
  child.parentPid = parent.pid ∧ parent.creationTime < child.creationTime

theorem isChain_of_linked {chain : List ObservedProcessIdentity} (h : linked chain = true) :
    chain.IsChain ChildOf := by
  induction chain with
  | nil => exact .nil
  | cons first chain ih =>
    cases chain with
    | nil => exact .singleton first
    | cons second chain =>
      have hlink := linked_iff.mp h
      refine .cons_cons (hlink 0 first second rfl rfl) (ih (linked_iff.mpr ?_))
      exact fun i child parent hchild hparent => hlink (i + 1) child parent hchild hparent

/-- Along a chain every process is younger than every later one. -/
theorem creationTimes_decrease {chain : List ObservedProcessIdentity} (h : linked chain = true) :
    chain.Pairwise fun younger older => older.creationTime < younger.creationTime := by
  have hchain : chain.IsChain fun younger older => older.creationTime < younger.creationTime :=
    (isChain_of_linked h).imp fun _ _ hlink => hlink.2
  have : IsTrans ObservedProcessIdentity
      fun younger older => older.creationTime < younger.creationTime :=
    ⟨fun _ _ _ hab hbc => String.lt_trans hbc hab⟩
  exact List.isChain_iff_pairwise.mp hchain

/-- The first process of a chain descends from the last. -/
theorem descends_of_linked {owner root : ObservedProcessIdentity}
    {others : List ObservedProcessIdentity} (h : linked (owner :: others) = true)
    (hroot : (owner :: others).getLast? = some root) :
    Relation.ReflTransGen ChildOf owner root := by
  have hchain := isChain_of_linked h
  rw [List.getLast?_eq_some_getLast (List.cons_ne_nil _ _), Option.some.injEq] at hroot
  rw [← hroot]
  exact List.relationReflTransGen_of_exists_isChain_cons others hchain rfl

end Meaning

end ListenerProvenanceOutput

/-! ## Bound endpoints -/

/-- The calls of a `CdpEndpointProvenanceSource`. -/
inductive ProvenanceCall where
  | bindOwnedEndpoint
  | assertOwnedEndpointCurrent
deriving DecidableEq, Repr

/-- A call: the lease it was given, the binding it read, and how it settled. -/
structure ProvenanceRecord where
  call : ProvenanceCall
  lease : RuntimeLease
  bound : Option RuntimeIdentity
  outcome : Option (Except ThrownError ListenerProvenanceObservation) := none

/-- `WindowsCdpEndpointProvenance`, with its calls in the order they were made. -/
structure WindowsCdpEndpointProvenance where
  binding : Option RuntimeIdentity := none
  calls : List ProvenanceRecord := []

/-- What can happen to it: a call, or the end of the command that a call runs. -/
inductive ProvenanceInput where
  | called (call : ProvenanceCall) (expectedLease : RuntimeLease)
  | ran (position : ℕ) (result : Except ThrownError Text)

namespace WindowsCdpEndpointProvenance

open ListenerProvenance ListenerProvenanceOutput

variable (platform : OutputPlatform) (config : CdpEndpointConfig)

/-- `observe`, once the command has ended. -/
def observe (result : Except ThrownError Text) (expectedLease : RuntimeLease) :
    Except ThrownError ListenerProvenanceObservation :=
  let observation := do
    let stdout ← result
    ListenerProvenanceOutput.parseListenerProvenanceOutput platform (Text.trim stdout) config
      expectedLease
  observation.mapError fun error =>
    if error.isInstance .operationAborted || error.isInstance .runtimeProvenanceUnverified then error
    else unverified.withCause (some error)

/-- A call of `bindOwnedEndpoint` or `assertOwnedEndpointCurrent`, up to its `await`. -/
def call (s : WindowsCdpEndpointProvenance) (call : ProvenanceCall) (expectedLease : RuntimeLease) :
    WindowsCdpEndpointProvenance :=
  let refused :=
    match call with
    | .bindOwnedEndpoint => s.binding.isSome
    | .assertOwnedEndpointCurrent => s.binding.isNone
  let record : ProvenanceRecord :=
    { call, lease := expectedLease, bound := s.binding
      outcome := if refused then some (.error unverified) else none }
  { s with calls := s.calls ++ [record] }

/-- How a call goes on with an observation. -/
def outcomeOf (record : ProvenanceRecord) (observed : Except ThrownError ListenerProvenanceObservation) :
    Except ThrownError ListenerProvenanceObservation := do
  let observation ← observed
  match record.call, record.bound with
  | .assertOwnedEndpointCurrent, some ownerIdentity =>
    if !sameRuntimeIdentity observation.ownerIdentity ownerIdentity then throw unverified
    pure observation
  | _, _ => pure observation

/-- The rest of a call, after the command. -/
def settle (s : WindowsCdpEndpointProvenance) (position : ℕ) (record : ProvenanceRecord)
    (result : Except ThrownError Text) : WindowsCdpEndpointProvenance :=
  let outcome := outcomeOf record (observe platform config result record.lease)
  { binding :=
      match record.call, outcome with
      | .bindOwnedEndpoint, .ok observation => some observation.ownerIdentity
      | _, _ => s.binding
    calls := s.calls.set position { record with outcome := some outcome } }

/-- One input; `none` where it cannot occur. -/
def step (s : WindowsCdpEndpointProvenance) : ProvenanceInput → Option WindowsCdpEndpointProvenance
  | .called call expectedLease => some (s.call call expectedLease)
  | .ran position result =>
    match s.calls[position]? with
    | some record =>
      if record.outcome.isNone then some (s.settle platform config position record result) else none
    | none => none

/-- The identity a call bound the endpoint to. -/
def boundBy (record : ProvenanceRecord) : Option RuntimeIdentity :=
  match record.call, record.outcome with
  | .bindOwnedEndpoint, some (.ok observation) => some observation.ownerIdentity
  | _, _ => none

/-- The identities of the calls of `bindOwnedEndpoint` that resolved. -/
def bound (s : WindowsCdpEndpointProvenance) : List RuntimeIdentity := s.calls.filterMap boundBy

/-- The observation is what the command of this call has printed. -/
def Printed (inputs : List ProvenanceInput) (position : ℕ) (lease : RuntimeLease)
    (observation : ListenerProvenanceObservation) : Prop :=
  ∃ stdout, .ran position (.ok stdout) ∈ inputs ∧
    ListenerProvenanceOutput.parseListenerProvenanceOutput platform (Text.trim stdout) config lease =
      .ok observation

/-- What a call that resolved has observed. -/
structure Observed (inputs : List ProvenanceInput) (position : ℕ) (record : ProvenanceRecord)
    (observation : ListenerProvenanceObservation) : Prop where
  printed : Printed platform config inputs position record.lease observation
  same : record.call = .assertOwnedEndpointCurrent → record.bound = some observation.ownerIdentity

/-- The binding, and every binding a call has read, is that of a call that resolved, and what has
resolved was observed. -/
structure Bound (inputs : List ProvenanceInput) (s : WindowsCdpEndpointProvenance) : Prop where
  binding : ∀ identity, s.binding = some identity → identity ∈ s.bound
  read : ∀ record ∈ s.calls, ∀ identity, record.bound = some identity → identity ∈ s.bound
  asserting : ∀ record ∈ s.calls, record.call = .assertOwnedEndpointCurrent → record.bound = none →
    record.outcome = some (.error unverified)
  observed : ∀ position record, s.calls[position]? = some record → ∀ observation,
    record.outcome = some (.ok observation) →
      Observed platform config inputs position record observation

variable {platform config}

section Steps

variable {s s' t : WindowsCdpEndpointProvenance} {inputs : List ProvenanceInput}

/-- What has been observed stays so. -/
theorem Observed.concat {position : ℕ} {record : ProvenanceRecord}
    {observation : ListenerProvenanceObservation}
    (h : Observed platform config inputs position record observation) (input : ProvenanceInput) :
    Observed platform config (inputs ++ [input]) position record observation := by
  obtain ⟨stdout, hran, hparse⟩ := h.printed
  exact ⟨⟨stdout, List.mem_append_left _ hran, hparse⟩, h.same⟩

theorem mem_bound {identity : RuntimeIdentity} :
    identity ∈ s.bound ↔ ∃ record ∈ s.calls, boundBy record = some identity :=
  List.mem_filterMap

theorem boundBy_eq_none {record : ProvenanceRecord} (h : record.outcome = none) :
    boundBy record = none := by
  rw [boundBy, h]
  cases record.call <;> rfl

/-- Whatever a resolved `bindOwnedEndpoint` has bound stays bound. -/
theorem bound_call (call : ProvenanceCall) (expectedLease : RuntimeLease) :
    ∀ identity ∈ s.bound, identity ∈ (s.call call expectedLease).bound := by
  intro identity hmem
  obtain ⟨record, hrecord, hbound⟩ := mem_bound.mp hmem
  exact mem_bound.mpr ⟨record, List.mem_append_left _ hrecord, hbound⟩

/-- A call that settles was still waiting, so it is none of those that have bound an identity. -/
theorem bound_settle {position : ℕ} {record : ProvenanceRecord} {result : Except ThrownError Text}
    (hat : s.calls[position]? = some record) (hwaiting : record.outcome = none) :
    ∀ identity ∈ s.bound, identity ∈ (s.settle platform config position record result).bound := by
  intro identity hmem
  obtain ⟨other, hother, hbound⟩ := mem_bound.mp hmem
  obtain ⟨i, hi⟩ := List.mem_iff_getElem?.mp hother
  refine mem_bound.mpr ⟨other, List.mem_iff_getElem?.mpr ⟨i, ?_⟩, hbound⟩
  have hne : position ≠ i := by
    rintro rfl
    rw [hat, Option.some.injEq] at hi
    rw [← hi, boundBy_eq_none hwaiting] at hbound
    cases hbound
  exact (List.getElem?_set_ne hne).trans hi

/-- The record of a call that settled with an outcome. -/
theorem mem_settle {position : ℕ} {record : ProvenanceRecord} {result : Except ThrownError Text}
    (hat : s.calls[position]? = some record) :
    { record with outcome := some (outcomeOf record
        (observe platform config result record.lease)) } ∈
      (s.settle platform config position record result).calls := by
  obtain ⟨hlt, -⟩ := List.getElem?_eq_some_iff.mp hat
  exact List.mem_set hlt _

theorem mapError_eq_ok {α ε : Type} {f : ε → ε} {x : Except ε α} {a : α} :
    x.mapError f = .ok a ↔ x = .ok a := by
  cases x <;> simp [Except.mapError]

/-- `observe` resolves with what the command has printed and the parser accepted. -/
theorem observe_eq_ok {position : ℕ} {result : Except ThrownError Text}
    {expectedLease : RuntimeLease} {observation : ListenerProvenanceObservation}
    (h : observe platform config result expectedLease = .ok observation) :
    Printed platform config (inputs ++ [.ran position result]) position expectedLease observation := by
  obtain ⟨stdout, rfl, hparse⟩ := bind_eq_ok.mp (mapError_eq_ok.mp h)
  exact ⟨stdout, List.mem_append_right _ List.mem_cons_self, hparse⟩

/-- A call resolves with an observation that passed its check. -/
theorem observed_of_outcomeOf {position : ℕ} {record : ProvenanceRecord}
    {result : Except ThrownError Text} {observation : ListenerProvenanceObservation}
    (hasserting : record.call = .assertOwnedEndpointCurrent → record.bound ≠ none)
    (h : outcomeOf record (observe platform config result record.lease) = .ok observation) :
    Observed platform config (inputs ++ [.ran position result]) position record observation := by
  obtain ⟨seen, hseen, hrest⟩ := bind_eq_ok.mp h
  cases hcall : record.call with
  | bindOwnedEndpoint =>
    rw [hcall] at hrest
    cases hrest
    exact ⟨observe_eq_ok hseen, fun hassert => nomatch hcall.symm.trans hassert⟩
  | assertOwnedEndpointCurrent =>
    cases hbound : record.bound with
    | none => exact absurd hbound (hasserting hcall)
    | some ownerIdentity =>
      rw [hcall, hbound] at hrest
      obtain ⟨hsame, hpure⟩ := check_eq_ok.mp hrest
      cases hpure
      refine ⟨observe_eq_ok hseen, fun _ => ?_⟩
      rw [Bool.not_eq_true, Bool.not_eq_false', sameRuntimeIdentity_iff] at hsame
      rw [hbound, hsame]

/-- Nothing is bound before the first call. -/
theorem bound_init : Bound platform config [] {} where
  binding _ h := by cases h
  read _ h := absurd h List.not_mem_nil
  asserting _ h := absurd h List.not_mem_nil
  observed _ _ h := by cases h

/-- A call reads the binding, and may be refused at once. -/
theorem Bound.call (h : Bound platform config inputs s) (call : ProvenanceCall)
    (expectedLease : RuntimeLease) :
    Bound platform config (inputs ++ [.called call expectedLease]) (s.call call expectedLease) where
  binding identity hbinding := bound_call call expectedLease identity (h.binding identity hbinding)
  read := by
    intro record hmem identity hread
    apply bound_call call expectedLease
    rcases List.mem_append.mp hmem with hmem | hmem
    · exact h.read record hmem identity hread
    · rw [List.mem_singleton.mp hmem] at hread
      exact h.binding identity hread
  asserting := by
    intro record hmem hcall hread
    rcases List.mem_append.mp hmem with hmem | hmem
    · exact h.asserting record hmem hcall hread
    · obtain rfl := List.mem_singleton.mp hmem
      dsimp only at hcall hread ⊢
      subst hcall
      rw [hread]
      rfl
  observed := by
    intro position record hat observation hresolved
    replace hat : (s.calls ++ [_])[position]? = some record := hat
    rcases Nat.lt_or_ge position s.calls.length with hlt | hge
    · rw [List.getElem?_append_left hlt] at hat
      exact (h.observed position record hat observation hresolved).concat _
    · -- a call that is refused at once has not resolved
      rw [List.getElem?_append_right hge] at hat
      rw [List.mem_singleton.mp (List.mem_of_getElem? hat)] at hresolved
      simp at hresolved

/-- A call that waited for its command settles. -/
theorem Bound.settle (h : Bound platform config inputs s) {position : ℕ} {record : ProvenanceRecord}
    {result : Except ThrownError Text} (hat : s.calls[position]? = some record)
    (hwaiting : record.outcome = none) :
    Bound platform config (inputs ++ [.ran position result])
      (s.settle platform config position record result) := by
  have hgrows : ∀ identity ∈ s.bound,
      identity ∈ (s.settle platform config position record result).bound := bound_settle hat hwaiting
  have hrecord : record ∈ s.calls := List.mem_of_getElem? hat
  -- A call of `assertOwnedEndpointCurrent` without a binding was refused, so it does not wait for
  -- its command.
  have hasserting : record.call = .assertOwnedEndpointCurrent → record.bound ≠ none := by
    intro hcall hread
    rw [h.asserting record hrecord hcall hread] at hwaiting
    cases hwaiting
  constructor
  case binding =>
    intro identity hbinding
    rw [WindowsCdpEndpointProvenance.settle] at hbinding
    dsimp only at hbinding
    split at hbinding
    · next observation hcall hresolved =>
        refine mem_bound.mpr ⟨_, mem_settle hat, ?_⟩
        rw [boundBy, hcall, hresolved]
        exact hbinding
    · exact hgrows identity (h.binding identity hbinding)
  case read =>
    intro other hmem identity hread
    apply hgrows
    -- The call that settles is this record; the others are as they were.
    rcases List.mem_or_eq_of_mem_set hmem with hmem | rfl
    · exact h.read other hmem identity hread
    · exact h.read record hrecord identity hread
  case asserting =>
    intro other hmem hcall hread
    rcases List.mem_or_eq_of_mem_set hmem with hmem | rfl
    · exact h.asserting other hmem hcall hread
    · exact absurd hread (hasserting hcall)
  case observed =>
    intro place other hplace observation hresolved
    -- What is observed now was printed by the command of this very call.
    by_cases hsame : position = place
    · subst hsame
      obtain ⟨hlt, -⟩ := List.getElem?_eq_some_iff.mp hat
      rw [WindowsCdpEndpointProvenance.settle, List.getElem?_set_self hlt] at hplace
      cases hplace
      have hobserved : Observed platform config (inputs ++ [.ran position result]) position record
          observation :=
        observed_of_outcomeOf hasserting (Option.some.inj hresolved)
      exact ⟨hobserved.printed, hobserved.same⟩
    · rw [WindowsCdpEndpointProvenance.settle, List.getElem?_set_ne hsame] at hplace
      exact (h.observed place other hplace observation hresolved).concat _

/-- The step lemma. -/
theorem Bound.step {input : ProvenanceInput} (h : Bound platform config inputs s)
    (hstep : step platform config s input = some s') :
    Bound platform config (inputs ++ [input]) s' := by
  cases input with
  | called call expectedLease =>
    cases hstep
    exact h.call call expectedLease
  | ran position result =>
    simp only [WindowsCdpEndpointProvenance.step] at hstep
    split at hstep
    · next record hat =>
        split at hstep
        · next hwaiting =>
            cases hstep
            exact h.settle hat (Option.isNone_iff_eq_none.mp hwaiting)
        · cases hstep
    · cases hstep

/-- In every state reached, what has resolved was observed for the binding it read. -/
theorem bound_of_exec (hrun : Machine.exec (step platform config) {} inputs = some t) :
    Bound platform config inputs t :=
  Machine.exec_history bound_init (fun _ _ _ _ _ h hstep => h.step hstep) hrun

end Steps

end WindowsCdpEndpointProvenance

/-! ## The law of endpoint provenance -/

open ListenerProvenance ListenerProvenanceOutput WindowsCdpEndpointProvenance in
/-- What the parser accepts, what follows for the accepted chain, and what a call of
`assertOwnedEndpointCurrent` that resolved has seen when the endpoint was bound once. -/
structure ProvenanceLaw (platform : OutputPlatform) (config : CdpEndpointConfig) : Prop where
  accepts : ∀ output lease, (∃ observation,
      ListenerProvenanceOutput.parseListenerProvenanceOutput platform output config lease =
        .ok observation) ↔
    ∃ ownerPid chain, Proves platform output config lease ownerPid chain
  owner : ∀ output lease observation,
    ListenerProvenanceOutput.parseListenerProvenanceOutput platform output config lease =
      .ok observation →
    observation.chainA.head?.map (fun process => process.toRuntimeIdentity) =
      some observation.ownerIdentity
  decreasing : ∀ output lease observation,
    ListenerProvenanceOutput.parseListenerProvenanceOutput platform output config lease =
      .ok observation →
    observation.chainA.Pairwise fun younger older => older.creationTime < younger.creationTime
  descends : ∀ output lease observation,
    ListenerProvenanceOutput.parseListenerProvenanceOutput platform output config lease =
      .ok observation →
    ∃ owner root, observation.chainA.head? = some owner ∧ observation.chainA.getLast? = some root ∧
      Relation.ReflTransGen ChildOf owner root ∧ root.toRuntimeIdentity = lease.identity
  asserted : ∀ inputs final owner,
    Machine.exec (WindowsCdpEndpointProvenance.step platform config) {} inputs = some final →
    final.bound = [owner] →
    ∀ position record, final.calls[position]? = some record →
      record.call = .assertOwnedEndpointCurrent → ∀ observation,
        record.outcome = some (.ok observation) →
          Printed platform config inputs position record.lease observation ∧
            observation.ownerIdentity = owner

open ListenerProvenance ListenerProvenanceOutput WindowsCdpEndpointProvenance in
/-- The parser accepts exactly proven ownership, and only the bound owner is current. -/
theorem endpoint_provenance (platform : OutputPlatform) (config : CdpEndpointConfig) :
    ProvenanceLaw platform config where
  accepts output lease := by
    constructor
    · rintro ⟨observation, h⟩
      obtain ⟨ownerPid, owner, others, hproves, -⟩ := parseListenerProvenanceOutput_eq_ok.mp h
      exact ⟨ownerPid, owner :: others, hproves⟩
    · rintro ⟨ownerPid, chain, hproves⟩
      cases chain with
      | nil => exact absurd hproves.chain.length.1 (Nat.not_succ_le_zero 0)
      | cons owner others =>
        exact ⟨_, parseListenerProvenanceOutput_eq_ok.mpr ⟨ownerPid, owner, others, hproves, rfl⟩⟩
  owner output lease observation h := by
    obtain ⟨ownerPid, owner, others, -, rfl⟩ := parseListenerProvenanceOutput_eq_ok.mp h
    rfl
  decreasing output lease observation h := by
    obtain ⟨ownerPid, owner, others, hproves, rfl⟩ := parseListenerProvenanceOutput_eq_ok.mp h
    exact creationTimes_decrease (linked_iff.mpr hproves.chain.linked)
  descends output lease observation h := by
    obtain ⟨ownerPid, owner, others, hproves, rfl⟩ := parseListenerProvenanceOutput_eq_ok.mp h
    obtain ⟨root, hroot, hidentity⟩ := Option.map_eq_some_iff.mp hproves.chain.root
    have hdescends := descends_of_linked (linked_iff.mpr hproves.chain.linked) hroot
    exact ⟨owner, root, rfl, hroot, hdescends, hidentity⟩
  asserted inputs final owner hrun hbound position record hat hcall observation hresolved := by
    have hinv := bound_of_exec hrun
    have hobserved := hinv.observed position record hat observation hresolved
    have hread := hinv.read record (List.mem_of_getElem? hat) _ (hobserved.same hcall)
    rw [hbound] at hread
    exact ⟨hobserved.printed, List.mem_singleton.mp hread⟩

end Threadwire
