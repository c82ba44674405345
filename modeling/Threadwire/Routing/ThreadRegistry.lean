import Threadwire.Collections.OrderedMap
import Threadwire.Domain.ThreadIdentity
import Threadwire.Effect.Basic

/-!
# The thread registry

`routing/ThreadRegistry.ts`: opaque handles for conversation locators. A handle is committed at
once, or reserved provisionally under a transaction token that later commits it or rolls it back.

The token and the settlement promise of a reservation are fresh objects in the source. Here a token
is a number the registry has not used before, and `settlements` records the promises that have been
settled, by token, with the value they were settled to.
-/

namespace Threadwire

/-- `DEFAULT_THREAD_HANDLE_COLLISION_ATTEMPTS`. -/
def DEFAULT_THREAD_HANDLE_COLLISION_ATTEMPTS : ℕ := 8

/-- `ProvisionalThreadRegistrationToken`: the identity of a frozen object. -/
abbrev ProvisionalThreadRegistrationToken := ℕ

/-- What a `ThreadHandleFactory` answers at each attempt of one registry call. -/
abbrev ThreadHandleFactory := ℕ → Except ThrownError String

/-- `ThreadRegistrationResult`. -/
structure ThreadRegistrationResult where
  threadHandle : ThreadHandle
  created : Bool
deriving DecidableEq, Repr

/-- `ProvisionalThreadRegistrationResult`: `created` is `true` exactly where there is a
transaction. -/
structure ProvisionalThreadRegistrationResult where
  threadHandle : ThreadHandle
  transaction : Option ProvisionalThreadRegistrationToken
deriving DecidableEq, Repr

/-- The `created` flag of a provisional result. -/
def ProvisionalThreadRegistrationResult.created (r : ProvisionalThreadRegistrationResult) : Bool :=
  r.transaction.isSome

/-- `ThreadRegistrationState`. -/
inductive ThreadRegistrationState where
  | committed
  | provisional
deriving DecidableEq, Repr

/-- `ProvisionalThreadEntry`; its settlement promise is named by the transaction. -/
structure ProvisionalThreadEntry where
  locator : ConversationLocator
  transaction : ProvisionalThreadRegistrationToken
deriving DecidableEq, Repr

/-- The four maps of a `ThreadRegistry`. -/
structure RegistryMaps where
  committedHandleToLocator : OrderedMap ThreadHandle ConversationLocator := .empty
  locatorToHandle : OrderedMap ConversationLocator ThreadHandle := .empty
  provisionalHandleToEntry : OrderedMap ThreadHandle ProvisionalThreadEntry := .empty
  provisionalTransactionToHandle :
    OrderedMap ProvisionalThreadRegistrationToken ThreadHandle := .empty

/-- `ThreadRegistry`: its maps, the next fresh token and the settled promises. -/
structure ThreadRegistry extends RegistryMaps where
  nextTransaction : ℕ := 0
  settlements : List (ProvisionalThreadRegistrationToken × Bool) := []

/-- A registry method. -/
abbrev RegistryM := Effect ThreadRegistry ThrownError

namespace ThreadRegistry

/-- `handleExists`. -/
def handleExists (r : RegistryMaps) (handle : ThreadHandle) : Bool :=
  r.committedHandleToLocator.has handle || r.provisionalHandleToEntry.has handle

/-- The allocation loop shared by registration and reservation: the first attempt, of those that
remain, whose handle is not in use. -/
def allocateHandle (r : RegistryMaps) (handleFactory : ThreadHandleFactory) :
    (remaining attempt : ℕ) → Except ThrownError ThreadHandle
  | 0, _ => .error (.ofCode .threadHandleCollision)
  | remaining + 1, attempt => do
    let handle ← handleFactory attempt >>= createOpaqueThreadHandle
    if handleExists r handle then allocateHandle r handleFactory remaining (attempt + 1)
    else pure handle

section Methods

variable (parseUrl : UrlParser) (handleFactory : ThreadHandleFactory)

/-- `registerWithStatus`. A handle is never the empty string, so the source's truth test on the
existing handle is a test for its presence. -/
def registerWithStatus (locator : String) : RegistryM ThreadRegistrationResult := do
  let normalized ← Effect.ofExcept (createConversationLocator parseUrl locator)
  let r ← get
  match r.locatorToHandle.get? normalized with
  | some existing =>
    if r.committedHandleToLocator.has existing then pure ⟨existing, false⟩
    else throw (.ofCode .threadNotFound)
  | none =>
    let handle ← Effect.ofExcept
      (allocateHandle r.toRegistryMaps handleFactory DEFAULT_THREAD_HANDLE_COLLISION_ATTEMPTS 0)
    set { r with
      committedHandleToLocator := r.committedHandleToLocator.set handle normalized
      locatorToHandle := r.locatorToHandle.set normalized handle }
    pure ⟨handle, true⟩

/-- `register`. -/
def register (locator : String) : RegistryM ThreadHandle := do
  let result ← registerWithStatus parseUrl handleFactory locator
  pure result.threadHandle

/-- `reserveProvisionalWithStatus`. -/
def reserveProvisionalWithStatus (locator : String) :
    RegistryM ProvisionalThreadRegistrationResult := do
  let normalized ← Effect.ofExcept (createConversationLocator parseUrl locator)
  let r ← get
  match r.locatorToHandle.get? normalized with
  | some existing => pure ⟨existing, none⟩
  | none =>
    let threadHandle ← Effect.ofExcept
      (allocateHandle r.toRegistryMaps handleFactory DEFAULT_THREAD_HANDLE_COLLISION_ATTEMPTS 0)
    let transaction := r.nextTransaction
    set { r with
      provisionalHandleToEntry :=
        r.provisionalHandleToEntry.set threadHandle ⟨normalized, transaction⟩
      provisionalTransactionToHandle :=
        r.provisionalTransactionToHandle.set transaction threadHandle
      locatorToHandle := r.locatorToHandle.set normalized threadHandle
      nextTransaction := transaction + 1 }
    pure ⟨threadHandle, some transaction⟩

/-- The guard shared by commit and rollback: the token must still stand for an open reservation,
to which `settle` is then applied. -/
def settleProvisional (transaction : ProvisionalThreadRegistrationToken)
    (settle : ThreadRegistry → ThreadHandle → ProvisionalThreadEntry → ThreadRegistry) :
    RegistryM Bool := do
  let r ← get
  match r.provisionalTransactionToHandle.get? transaction with
  | none => pure false
  | some handle =>
    match r.provisionalHandleToEntry.get? handle with
    | none => pure false
    | some entry =>
      if entry.transaction = transaction then
        set (settle r handle entry)
        pure true
      else pure false

/-- The registry after the transaction of `entry` committed. -/
def committed (r : ThreadRegistry) (handle : ThreadHandle) (entry : ProvisionalThreadEntry) :
    ThreadRegistry :=
  { r with
    provisionalTransactionToHandle := r.provisionalTransactionToHandle.delete entry.transaction
    provisionalHandleToEntry := r.provisionalHandleToEntry.delete handle
    committedHandleToLocator := r.committedHandleToLocator.set handle entry.locator
    settlements := (entry.transaction, true) :: r.settlements }

/-- The registry after the transaction of `entry` was rolled back. -/
def rolledBack (r : ThreadRegistry) (handle : ThreadHandle) (entry : ProvisionalThreadEntry) :
    ThreadRegistry :=
  { r with
    provisionalTransactionToHandle := r.provisionalTransactionToHandle.delete entry.transaction
    provisionalHandleToEntry := r.provisionalHandleToEntry.delete handle
    locatorToHandle :=
      if r.locatorToHandle.get? entry.locator = some handle then
        r.locatorToHandle.delete entry.locator
      else r.locatorToHandle
    settlements := (entry.transaction, false) :: r.settlements }

/-- `commitProvisional`. -/
def commitProvisional (transaction : ProvisionalThreadRegistrationToken) : RegistryM Bool :=
  settleProvisional transaction committed

/-- `rollbackProvisional`. -/
def rollbackProvisional (transaction : ProvisionalThreadRegistrationToken) : RegistryM Bool :=
  settleProvisional transaction rolledBack

/-- `registrationState`. -/
def registrationState (r : ThreadRegistry) (handle : ThreadHandle) :
    Except ThrownError ThreadRegistrationState :=
  if r.committedHandleToLocator.has handle then .ok .committed
  else if r.provisionalHandleToEntry.has handle then .ok .provisional
  else .error (.ofCode .threadNotFound)

/-- `resolve`. -/
def resolve (r : ThreadRegistry) (handle : ThreadHandle) :
    Except ThrownError ConversationLocator :=
  match r.committedHandleToLocator.get? handle with
  | some locator => .ok locator
  | none => .error (.ofCode .threadNotFound)

/-- `hasLocator`. -/
def hasLocator (r : ThreadRegistry) (locator : String) : Except ThrownError Bool := do
  let normalized ← createConversationLocator parseUrl locator
  pure (r.locatorToHandle.has normalized)

/-- `knownThreads`. -/
def knownThreads (r : ThreadRegistry) : List ThreadHandle := r.committedHandleToLocator.keys

end Methods

/-! ## What one call can do

Each mutating method is inverted once: the outcome and the new state of a call, by the branch it
took.
-/

variable {parseUrl : UrlParser} {handleFactory : ThreadHandleFactory}

/-- The handle factory has answered with the identifier of this handle. -/
def Draws (handleFactory : ThreadHandleFactory) (handle : ThreadHandle) : Prop :=
  ∃ attempt, handleFactory attempt >>= createOpaqueThreadHandle = .ok handle

/-- A handle that the allocation loop returns is not in use, and is one that the factory made. -/
theorem allocateHandle_spec {r : RegistryMaps} {remaining attempt : ℕ} {handle : ThreadHandle}
    (h : allocateHandle r handleFactory remaining attempt = .ok handle) :
    handleExists r handle = false ∧ Draws handleFactory handle := by
  induction remaining generalizing attempt with
  | zero => cases h
  | succ remaining ih =>
    unfold allocateHandle at h
    generalize hdrawn : handleFactory attempt >>= createOpaqueThreadHandle = candidate at h
    cases candidate with
    | error e => cases h
    | ok candidate =>
      change (if handleExists r candidate = true
        then allocateHandle r handleFactory remaining (attempt + 1)
        else Except.ok candidate) = Except.ok handle at h
      by_cases hused : handleExists r candidate = true
      · rw [if_pos hused] at h
        exact ih h
      · rw [if_neg hused] at h
        cases h
        exact ⟨by simpa using hused, attempt, hdrawn⟩

/-- The registry after a registration created `handle`. -/
def registered (r : ThreadRegistry) (normalized : ConversationLocator) (handle : ThreadHandle) :
    ThreadRegistry :=
  { r with
    committedHandleToLocator := r.committedHandleToLocator.set handle normalized
    locatorToHandle := r.locatorToHandle.set normalized handle }

/-- The registry after a reservation created `handle`. -/
def reserved (r : ThreadRegistry) (normalized : ConversationLocator) (handle : ThreadHandle) :
    ThreadRegistry :=
  { r with
    provisionalHandleToEntry := r.provisionalHandleToEntry.set handle ⟨normalized, r.nextTransaction⟩
    provisionalTransactionToHandle := r.provisionalTransactionToHandle.set r.nextTransaction handle
    locatorToHandle := r.locatorToHandle.set normalized handle
    nextTransaction := r.nextTransaction + 1 }

/-- The token stands for a reservation that is still open: `entry`, under `handle`. -/
structure Pending (r : ThreadRegistry) (transaction : ProvisionalThreadRegistrationToken)
    (handle : ThreadHandle) (entry : ProvisionalThreadEntry) : Prop where
  token : r.provisionalTransactionToHandle.get? transaction = some handle
  entry_eq : r.provisionalHandleToEntry.get? handle = some entry
  transaction_eq : entry.transaction = transaction

section Rules

open Effect

variable {locator : String} {transaction : ProvisionalThreadRegistrationToken} {r : ThreadRegistry}
  {E : ThrownError → ThreadRegistry → Prop}

theorem wp_registerWithStatus {Q : ThreadRegistrationResult → ThreadRegistry → Prop}
    (hthrow : ∀ e, E e r)
    (hexisting : ∀ normalized existing, createConversationLocator parseUrl locator = .ok normalized →
      r.locatorToHandle.get? normalized = some existing →
      r.committedHandleToLocator.has existing = true → Q ⟨existing, false⟩ r)
    (hcreated : ∀ normalized handle, createConversationLocator parseUrl locator = .ok normalized →
      r.locatorToHandle.get? normalized = none → handleExists r.toRegistryMaps handle = false →
      Draws handleFactory handle → Q ⟨handle, true⟩ (r.registered normalized handle)) :
    wp (registerWithStatus parseUrl handleFactory locator) Q E r := by
  rw [registerWithStatus, wp_bind, wp_ofExcept]
  cases hnorm : createConversationLocator parseUrl locator with
  | error e => exact hthrow e
  | ok normalized =>
    simp only [wp_bind, wp_get]
    cases hget : r.locatorToHandle.get? normalized with
    | some existing =>
      simp only [wp_ite]
      by_cases hhas : r.committedHandleToLocator.has existing = true
      · rw [if_pos hhas]
        exact hexisting normalized existing hnorm hget hhas
      · rw [if_neg hhas]
        exact hthrow _
    | none =>
      simp only [wp_bind, wp_ofExcept]
      cases halloc : allocateHandle r.toRegistryMaps handleFactory
          DEFAULT_THREAD_HANDLE_COLLISION_ATTEMPTS 0 with
      | error e => exact hthrow e
      | ok handle =>
        obtain ⟨hfresh, hdraws⟩ := allocateHandle_spec halloc
        exact hcreated normalized handle hnorm hget hfresh hdraws

theorem wp_reserveProvisionalWithStatus
    {Q : ProvisionalThreadRegistrationResult → ThreadRegistry → Prop}
    (hthrow : ∀ e, E e r)
    (hexisting : ∀ normalized existing, createConversationLocator parseUrl locator = .ok normalized →
      r.locatorToHandle.get? normalized = some existing → Q ⟨existing, none⟩ r)
    (hcreated : ∀ normalized handle, createConversationLocator parseUrl locator = .ok normalized →
      r.locatorToHandle.get? normalized = none → handleExists r.toRegistryMaps handle = false →
      Draws handleFactory handle → Q ⟨handle, some r.nextTransaction⟩ (r.reserved normalized handle)) :
    wp (reserveProvisionalWithStatus parseUrl handleFactory locator) Q E r := by
  rw [reserveProvisionalWithStatus, wp_bind, wp_ofExcept]
  cases hnorm : createConversationLocator parseUrl locator with
  | error e => exact hthrow e
  | ok normalized =>
    simp only [wp_bind, wp_get]
    cases hget : r.locatorToHandle.get? normalized with
    | some existing => exact hexisting normalized existing hnorm hget
    | none =>
      simp only [wp_bind, wp_ofExcept]
      cases halloc : allocateHandle r.toRegistryMaps handleFactory
          DEFAULT_THREAD_HANDLE_COLLISION_ATTEMPTS 0 with
      | error e => exact hthrow e
      | ok handle =>
        obtain ⟨hfresh, hdraws⟩ := allocateHandle_spec halloc
        exact hcreated normalized handle hnorm hget hfresh hdraws

theorem wp_settleProvisional
    {settle : ThreadRegistry → ThreadHandle → ProvisionalThreadEntry → ThreadRegistry}
    {Q : Bool → ThreadRegistry → Prop}
    (hnone : (∀ handle entry, ¬ r.Pending transaction handle entry) → Q false r)
    (htook : ∀ handle entry, r.Pending transaction handle entry → Q true (settle r handle entry)) :
    wp (settleProvisional transaction settle) Q E r := by
  simp only [settleProvisional, wp_bind, wp_get]
  cases htoken : r.provisionalTransactionToHandle.get? transaction with
  | none => exact hnone fun _ _ h => by simp [h.token] at htoken
  | some handle =>
    have hhandle : ∀ handle' entry, r.Pending transaction handle' entry → handle' = handle :=
      fun _ _ h => Option.some.inj (h.token.symm.trans htoken)
    cases hentry : r.provisionalHandleToEntry.get? handle with
    | none =>
      simp only [hentry, wp_pure]
      refine hnone fun handle' entry h => ?_
      have hget := h.entry_eq
      rw [hhandle handle' entry h, hentry] at hget
      cases hget
    | some entry =>
      simp only [hentry, wp_ite]
      by_cases hsame : entry.transaction = transaction
      · rw [if_pos hsame]
        exact htook handle entry ⟨htoken, hentry, hsame⟩
      · rw [if_neg hsame]
        refine hnone fun handle' entry' h => ?_
        have hget := h.entry_eq
        rw [hhandle handle' entry' h, hentry] at hget
        cases hget
        exact hsame h.transaction_eq

end Rules

/-- Settling a token that stands for an open reservation takes effect. -/
theorem settleProvisional_pending {r : ThreadRegistry}
    {transaction : ProvisionalThreadRegistrationToken} {handle : ThreadHandle}
    {entry : ProvisionalThreadEntry}
    {settle : ThreadRegistry → ThreadHandle → ProvisionalThreadEntry → ThreadRegistry}
    (h : Pending r transaction handle entry) :
    settleProvisional transaction settle r = (.ok true, settle r handle entry) := by
  show (match r.provisionalTransactionToHandle.get? transaction with
    | none => (pure false : RegistryM Bool)
    | some handle =>
      match r.provisionalHandleToEntry.get? handle with
      | none => pure false
      | some entry =>
        if entry.transaction = transaction then do
          set (settle r handle entry)
          pure true
        else pure false) r = _
  simp only [h.token, h.entry_eq, if_pos h.transaction_eq]
  rfl

end ThreadRegistry

end Threadwire
