import Threadwire.Routing.ThreadRegistry

/-!
# The representation invariant of the thread registry

The four maps of a registry describe one thing: a partial bijection between handles and locators,
each pair of it committed or held by an open transaction. `Consistent` says that they do, and every
registry call keeps it, whatever its locator, token and handle factory.
-/

namespace Threadwire

namespace ThreadRegistry

/-- The handle stands for the locator, committed or provisionally. -/
def Bound (r : RegistryMaps) (handle : ThreadHandle) (locator : ConversationLocator) : Prop :=
  r.committedHandleToLocator.get? handle = some locator ∨
    (r.provisionalHandleToEntry.get? handle).map ProvisionalThreadEntry.locator = some locator

/-- The maps agree with each other, and the tokens in use are issued and unsettled. -/
structure Consistent (r : ThreadRegistry) : Prop where
  disjoint : ∀ handle locator, r.committedHandleToLocator.get? handle = some locator →
    r.provisionalHandleToEntry.get? handle = none
  inverse : ∀ locator handle,
    r.locatorToHandle.get? locator = some handle ↔ Bound r.toRegistryMaps handle locator
  tokens : ∀ transaction handle, r.provisionalTransactionToHandle.get? transaction = some handle ↔
    (r.provisionalHandleToEntry.get? handle).map ProvisionalThreadEntry.transaction =
      some transaction
  issued : ∀ transaction handle, r.provisionalTransactionToHandle.get? transaction = some handle →
    transaction < r.nextTransaction
  unsettled : ∀ transaction handle,
    r.provisionalTransactionToHandle.get? transaction = some handle →
    transaction ∉ r.settlements.map Prod.fst
  settled_issued : ∀ transaction ∈ r.settlements.map Prod.fst, transaction < r.nextTransaction

variable {r : ThreadRegistry} {handle : ThreadHandle} {locator : ConversationLocator}
  {transaction : ProvisionalThreadRegistrationToken} {entry : ProvisionalThreadEntry}

theorem consistent_empty : Consistent {} where
  disjoint := by simp
  inverse := by simp [Bound]
  tokens := by simp
  issued := by simp
  unsettled := by simp
  settled_issued := by simp

/-- A consistent registry binds a handle to at most one locator. -/
theorem Consistent.bound_unique (hr : Consistent r) {locator' : ConversationLocator}
    (h : Bound r.toRegistryMaps handle locator) (h' : Bound r.toRegistryMaps handle locator') :
    locator = locator' := by
  obtain hc | hp := h <;> obtain hc' | hp' := h'
  · exact Option.some.inj (hc.symm.trans hc')
  · rw [hr.disjoint _ _ hc] at hp'
    cases hp'
  · rw [hr.disjoint _ _ hc'] at hp
    cases hp
  · exact Option.some.inj (hp.symm.trans hp')

/-- No open reservation holds the token that is issued next. -/
theorem Consistent.next_unused (hr : Consistent r) :
    r.provisionalTransactionToHandle.get? r.nextTransaction = none ∧
      ∀ handle, (r.provisionalHandleToEntry.get? handle).map ProvisionalThreadEntry.transaction ≠
        some r.nextTransaction := by
  have hnone : r.provisionalTransactionToHandle.get? r.nextTransaction = none := by
    cases h : r.provisionalTransactionToHandle.get? r.nextTransaction with
    | none => rfl
    | some handle => exact absurd (hr.issued _ _ h) (Nat.lt_irrefl _)
  refine ⟨hnone, fun handle h => ?_⟩
  rw [← hr.tokens, hnone] at h
  cases h

/-- An unused handle is in neither map. -/
theorem handleExists_eq_false {r : RegistryMaps} (h : handleExists r handle = false) :
    r.committedHandleToLocator.get? handle = none ∧
      r.provisionalHandleToEntry.get? handle = none := by
  simpa [handleExists, OrderedMap.has] using h

/-- The entries after a registration. -/
theorem bound_registered {handle' : ThreadHandle} {locator' : ConversationLocator}
    (h : Bound (r.registered locator handle).toRegistryMaps handle' locator') :
    Bound r.toRegistryMaps handle' locator' ∨ locator = locator' := by
  simp only [ThreadRegistry.registered, Bound] at h ⊢
  grind

/-- The entries after a reservation. -/
theorem bound_reserved {handle' : ThreadHandle} {locator' : ConversationLocator}
    (h : Bound (r.reserved locator handle).toRegistryMaps handle' locator') :
    Bound r.toRegistryMaps handle' locator' ∨ locator = locator' := by
  simp only [ThreadRegistry.reserved, Bound] at h ⊢
  grind

/-! ## The transitions keep the invariant -/

theorem Consistent.registered (hr : Consistent r) (hfree : r.locatorToHandle.get? locator = none)
    (hunused : handleExists r.toRegistryMaps handle = false) :
    Consistent (r.registered locator handle) := by
  obtain ⟨hc, hp⟩ := handleExists_eq_false hunused
  have hinv := hr.inverse
  have hdis := hr.disjoint
  simp only [Bound] at hinv
  refine ⟨?_, ?_, hr.tokens, hr.issued, hr.unsettled, hr.settled_issued⟩
  · simp only [ThreadRegistry.registered]
    grind
  · simp only [ThreadRegistry.registered, Bound]
    grind

theorem Consistent.reserved (hr : Consistent r) (hfree : r.locatorToHandle.get? locator = none)
    (hunused : handleExists r.toRegistryMaps handle = false) :
    Consistent (r.reserved locator handle) := by
  obtain ⟨hc, hp⟩ := handleExists_eq_false hunused
  obtain ⟨hnext, hnext'⟩ := hr.next_unused
  obtain ⟨hdis, hinv, htok, hissued, hunsettled, hsettled⟩ := hr
  simp only [Bound] at hinv
  refine ⟨?_, ?_, ?_, ?_, ?_, ?_⟩ <;> simp only [ThreadRegistry.reserved, Bound] <;> grind

theorem Consistent.committed (hr : Consistent r) (hopen : Pending r transaction handle entry) :
    Consistent (r.committed handle entry) := by
  obtain ⟨htoken, hentry, rfl⟩ := hopen
  obtain ⟨hdis, hinv, htok, hissued, hunsettled, hsettled⟩ := hr
  simp only [Bound] at hinv
  refine ⟨?_, ?_, ?_, ?_, ?_, ?_⟩ <;> simp only [ThreadRegistry.committed, Bound] <;> grind

theorem Consistent.rolledBack (hr : Consistent r) (hopen : Pending r transaction handle entry) :
    Consistent (r.rolledBack handle entry) := by
  obtain ⟨htoken, hentry, rfl⟩ := hopen
  obtain ⟨hdis, hinv, htok, hissued, hunsettled, hsettled⟩ := hr
  simp only [Bound] at hinv
  refine ⟨?_, ?_, ?_, ?_, ?_, ?_⟩ <;> simp only [ThreadRegistry.rolledBack, Bound] <;> grind

/-! ## Calls -/

/-- The mutating calls of the registry, each with its arguments and with what the handle factory
answers during it. -/
inductive RegistryCall where
  | register (locator : String) (handleFactory : ThreadHandleFactory)
  | registerWithStatus (locator : String) (handleFactory : ThreadHandleFactory)
  | reserveProvisionalWithStatus (locator : String) (handleFactory : ThreadHandleFactory)
  | commitProvisional (transaction : ProvisionalThreadRegistrationToken)
  | rollbackProvisional (transaction : ProvisionalThreadRegistrationToken)

/-- What a call returns. -/
inductive RegistryReturn where
  | handle (threadHandle : ThreadHandle)
  | registration (result : ThreadRegistrationResult)
  | reservation (result : ProvisionalThreadRegistrationResult)
  | settled (effective : Bool)

variable (parseUrl : UrlParser)

/-- Perform a call. -/
def RegistryCall.perform : RegistryCall → RegistryM RegistryReturn
  | .register locator handleFactory =>
    .handle <$> ThreadRegistry.register parseUrl handleFactory locator
  | .registerWithStatus locator handleFactory =>
    .registration <$> ThreadRegistry.registerWithStatus parseUrl handleFactory locator
  | .reserveProvisionalWithStatus locator handleFactory =>
    .reservation <$> ThreadRegistry.reserveProvisionalWithStatus parseUrl handleFactory locator
  | .commitProvisional transaction => .settled <$> ThreadRegistry.commitProvisional transaction
  | .rollbackProvisional transaction => .settled <$> ThreadRegistry.rollbackProvisional transaction

/-- The registry after a sequence of calls; the caller of a call that throws carries on. -/
def performAll (r : ThreadRegistry) (calls : List RegistryCall) : ThreadRegistry :=
  calls.foldl (fun r call => (call.perform parseUrl r).2) r

/-- The call took effect on the token: it committed it or rolled it back. -/
def RegistryCall.settles (call : RegistryCall) (r : ThreadRegistry)
    (transaction : ProvisionalThreadRegistrationToken) : Bool :=
  match call, (call.perform parseUrl r).1 with
  | .commitProvisional token, .ok (.settled effective)
  | .rollbackProvisional token, .ok (.settled effective) => effective && token == transaction
  | _, _ => false

/-- How many of the calls took effect on the token. -/
def effects (transaction : ProvisionalThreadRegistrationToken) : ThreadRegistry →
    List RegistryCall → ℕ
  | _, [] => 0
  | r, call :: calls =>
    (if call.settles parseUrl r transaction then 1 else 0) +
      effects transaction (call.perform parseUrl r).2 calls

/-- What one call can do to the registry, and what it answers when it does. -/
inductive Transition (r : ThreadRegistry) :
    RegistryCall → Except ThrownError RegistryReturn → ThreadRegistry → Prop
  | threw (call : RegistryCall) (e : ThrownError) : Transition r call (.error e) r
  | returned (call : RegistryCall) (value : RegistryReturn) (hvalue : value ≠ .settled true) :
    Transition r call (.ok value) r
  | registered (call : RegistryCall) (value : RegistryReturn) (hvalue : value ≠ .settled true)
    (locator : ConversationLocator) (handle : ThreadHandle)
    (hfree : r.locatorToHandle.get? locator = none)
    (hunused : handleExists r.toRegistryMaps handle = false) :
    Transition r call (.ok value) (r.registered locator handle)
  | reserved (call : RegistryCall) (value : RegistryReturn) (hvalue : value ≠ .settled true)
    (locator : ConversationLocator) (handle : ThreadHandle)
    (hfree : r.locatorToHandle.get? locator = none)
    (hunused : handleExists r.toRegistryMaps handle = false) :
    Transition r call (.ok value) (r.reserved locator handle)
  | committed (transaction : ProvisionalThreadRegistrationToken) (handle : ThreadHandle)
    (entry : ProvisionalThreadEntry) (hopen : Pending r transaction handle entry) :
    Transition r (.commitProvisional transaction) (.ok (.settled true)) (r.committed handle entry)
  | rolledBack (transaction : ProvisionalThreadRegistrationToken) (handle : ThreadHandle)
    (entry : ProvisionalThreadEntry) (hopen : Pending r transaction handle entry) :
    Transition r (.rollbackProvisional transaction) (.ok (.settled true)) (r.rolledBack handle entry)

/-- Every call makes one of the transitions. -/
theorem perform_transition (call : RegistryCall) (r : ThreadRegistry) :
    Transition r call (call.perform parseUrl r).1 (call.perform parseUrl r).2 := by
  -- Each method's own specification gives its transitions.
  have hspec : Effect.wp (call.perform parseUrl) (fun value r' => Transition r call (.ok value) r')
      (fun e r' => Transition r call (.error e) r') r := by
    cases call with
    | register locator handleFactory =>
      rw [RegistryCall.perform, Effect.wp_map, ThreadRegistry.register, Effect.wp_bind]
      apply wp_registerWithStatus
      · exact .threw _
      · intro normalized existing _ _ _
        exact .returned _ _ (by simp)
      · intro normalized handle _ hfree hunused _
        exact .registered _ _ (by simp) normalized handle hfree hunused
    | registerWithStatus locator handleFactory =>
      rw [RegistryCall.perform, Effect.wp_map]
      apply wp_registerWithStatus
      · exact .threw _
      · intro normalized existing _ _ _
        exact .returned _ _ (by simp)
      · intro normalized handle _ hfree hunused _
        exact .registered _ _ (by simp) normalized handle hfree hunused
    | reserveProvisionalWithStatus locator handleFactory =>
      rw [RegistryCall.perform, Effect.wp_map]
      apply wp_reserveProvisionalWithStatus
      · exact .threw _
      · intro normalized existing _ _
        exact .returned _ _ (by simp)
      · intro normalized handle _ hfree hunused _
        exact .reserved _ _ (by simp) normalized handle hfree hunused
    | commitProvisional transaction =>
      rw [RegistryCall.perform, Effect.wp_map]
      apply wp_settleProvisional
      · intro _
        exact .returned _ _ (by simp)
      · intro handle entry hopen
        exact .committed transaction handle entry hopen
    | rollbackProvisional transaction =>
      rw [RegistryCall.perform, Effect.wp_map]
      apply wp_settleProvisional
      · intro _
        exact .returned _ _ (by simp)
      · intro handle entry hopen
        exact .rolledBack transaction handle entry hopen
  unfold Effect.wp at hspec
  rcases hresult : call.perform parseUrl r with ⟨_ | _, r'⟩ <;> rw [hresult] at hspec <;> exact hspec

/-! ## What one call preserves -/

variable {call : RegistryCall} {outcome : Except ThrownError RegistryReturn} {r' : ThreadRegistry}

/-- Every transition keeps the maps consistent. -/
theorem Transition.consistent (h : Transition r call outcome r') (hr : Consistent r) :
    Consistent r' := by
  cases h with
  | threw | returned => exact hr
  | registered _ _ _ _ _ hfree hunused => exact hr.registered hfree hunused
  | reserved _ _ _ _ _ hfree hunused => exact hr.reserved hfree hunused
  | committed transaction handle entry hopen => exact hr.committed hopen
  | rolledBack transaction handle entry hopen => exact hr.rolledBack hopen

/-- A registration of another handle leaves a committed one alone. -/
theorem committed_registered {handle' : ThreadHandle} {locator' : ConversationLocator}
    (hunused : handleExists r.toRegistryMaps handle' = false)
    (hc : r.committedHandleToLocator.get? handle = some locator) :
    (r.registered locator' handle').committedHandleToLocator.get? handle = some locator := by
  have hne : handle' ≠ handle := by
    rintro rfl
    rw [(handleExists_eq_false hunused).1] at hc
    cases hc
  rw [ThreadRegistry.registered, OrderedMap.get?_set, if_neg hne]
  exact hc

/-- So does a commit. -/
theorem Consistent.committed_committed (hr : Consistent r) {handle' : ThreadHandle}
    (hopen : Pending r transaction handle' entry)
    (hc : r.committedHandleToLocator.get? handle = some locator) :
    (r.committed handle' entry).committedHandleToLocator.get? handle = some locator := by
  have hne : handle' ≠ handle := by
    rintro rfl
    have hnone := hr.disjoint _ _ hc
    rw [hopen.entry_eq] at hnone
    cases hnone
  rw [ThreadRegistry.committed, OrderedMap.get?_set, if_neg hne]
  exact hc

/-- A committed handle stays committed, to the same locator. -/
theorem Transition.committed_persists (h : Transition r call outcome r') (hr : Consistent r)
    (hc : r.committedHandleToLocator.get? handle = some locator) :
    r'.committedHandleToLocator.get? handle = some locator := by
  cases h with
  | threw | returned | reserved | rolledBack => exact hc
  | registered _ _ _ locator' handle' hfree hunused => exact committed_registered hunused hc
  | committed transaction handle' entry hopen => exact hr.committed_committed hopen hc

/-- A settled promise stays settled. -/
theorem Transition.settlements_subset (h : Transition r call outcome r') :
    ∀ t ∈ r.settlements.map Prod.fst, t ∈ r'.settlements.map Prod.fst := by
  cases h with
  | threw | returned | registered | reserved => exact fun _ h => h
  | committed | rolledBack => exact fun _ h => List.mem_cons_of_mem _ h

/-- A call takes effect on a token only while its promise is unsettled, and settles it. -/
theorem settles_spec (hr : Consistent r) (h : call.settles parseUrl r transaction = true) :
    transaction ∉ r.settlements.map Prod.fst ∧
      transaction ∈ (call.perform parseUrl r).2.settlements.map Prod.fst := by
  have htransition := perform_transition parseUrl call r
  unfold RegistryCall.settles at h
  generalize (call.perform parseUrl r).1 = outcome at h htransition
  generalize (call.perform parseUrl r).2 = r' at htransition ⊢
  cases htransition with
  | threw _ e => cases call <;> cases h
  | returned _ value hvalue | registered _ value hvalue | reserved _ value hvalue =>
    cases call <;> cases value <;> simp_all
  | committed token handle entry hopen | rolledBack token handle entry hopen =>
    have htoken : token = transaction := by simpa using h
    subst htoken
    exact ⟨hr.unsettled _ _ hopen.token, by
      simp [ThreadRegistry.committed, ThreadRegistry.rolledBack, hopen.transaction_eq]⟩

/-! ## What a sequence of calls preserves -/

/-- The run lemma: the maps are consistent after any calls. -/
theorem Consistent.performAll (hr : Consistent r) (calls : List RegistryCall) :
    Consistent (r.performAll parseUrl calls) := by
  induction calls generalizing r with
  | nil => exact hr
  | cons call calls ih => exact ih ((perform_transition parseUrl call r).consistent hr)

theorem committed_performAll (hr : Consistent r) (calls : List RegistryCall)
    (hc : r.committedHandleToLocator.get? handle = some locator) :
    (r.performAll parseUrl calls).committedHandleToLocator.get? handle = some locator := by
  induction calls generalizing r with
  | nil => exact hc
  | cons call calls ih =>
    have htransition := perform_transition parseUrl call r
    exact ih (htransition.consistent hr) (htransition.committed_persists hr hc)

/-- No call takes effect on a token whose promise is settled. -/
theorem effects_settled (hr : Consistent r) (calls : List RegistryCall)
    (hsettled : transaction ∈ r.settlements.map Prod.fst) :
    effects parseUrl transaction r calls = 0 := by
  induction calls generalizing r with
  | nil => rfl
  | cons call calls ih =>
    have htransition := perform_transition parseUrl call r
    have hcall : call.settles parseUrl r transaction = false := by
      rw [Bool.eq_false_iff]
      exact fun h => (settles_spec parseUrl hr h).1 hsettled
    rw [effects, hcall, ih (htransition.consistent hr) (htransition.settlements_subset _ hsettled)]
    rfl

/-- Every token takes effect at most once. -/
theorem effects_le_one (hr : Consistent r) (calls : List RegistryCall) :
    effects parseUrl transaction r calls ≤ 1 := by
  induction calls generalizing r with
  | nil => exact Nat.zero_le 1
  | cons call calls ih =>
    have hr' := (perform_transition parseUrl call r).consistent hr
    rw [effects]
    by_cases hcall : call.settles parseUrl r transaction = true
    · have hrest := effects_settled parseUrl hr' calls (settles_spec parseUrl hr hcall).2
      simp [hcall, hrest]
    · rw [if_neg hcall, Nat.zero_add]
      exact ih hr'

/-! ## Reservation and rollback -/

/-- The reservation just made is pending under its own token. -/
theorem pending_reserved :
    Pending (r.reserved locator handle) r.nextTransaction handle ⟨locator, r.nextTransaction⟩ where
  token := by simp [ThreadRegistry.reserved, OrderedMap.get?_set]
  entry_eq := by simp [ThreadRegistry.reserved, OrderedMap.get?_set]
  transaction_eq := rfl

/-- Rolling a fresh reservation back restores all four maps, their order included. -/
theorem rolledBack_reserved (hr : Consistent r) (hfree : r.locatorToHandle.get? locator = none)
    (hunused : handleExists r.toRegistryMaps handle = false) :
    ((r.reserved locator handle).rolledBack handle ⟨locator, r.nextTransaction⟩).toRegistryMaps =
      r.toRegistryMaps := by
  have hprovisional := OrderedMap.delete_set r.provisionalHandleToEntry handle
    ⟨locator, r.nextTransaction⟩ (handleExists_eq_false hunused).2
  have htokens := OrderedMap.delete_set r.provisionalTransactionToHandle r.nextTransaction handle
    hr.next_unused.1
  have hlocators := OrderedMap.delete_set r.locatorToHandle locator handle hfree
  simp [ThreadRegistry.rolledBack, ThreadRegistry.reserved, OrderedMap.get?_set, hprovisional,
    htokens, hlocators]

/-- A reservation that created a handle, undone at once by its own token: the rollback takes
effect and the maps are what they were. -/
theorem rollback_after_reserve (hr : Consistent r) {locator : String}
    {handleFactory : ThreadHandleFactory} {result : ProvisionalThreadRegistrationResult}
    (hreserve : reserveProvisionalWithStatus parseUrl handleFactory locator r = (.ok result, r'))
    (htoken : result.transaction = some transaction) :
    ∃ r'', rollbackProvisional transaction r' = (.ok true, r'') ∧
      r''.toRegistryMaps = r.toRegistryMaps := by
  have hspec : Effect.wp (reserveProvisionalWithStatus parseUrl handleFactory locator)
      (fun result r' => ∀ transaction, result.transaction = some transaction →
        ∃ r'', rollbackProvisional transaction r' = (.ok true, r'') ∧
          r''.toRegistryMaps = r.toRegistryMaps) (fun _ _ => True) r := by
    apply wp_reserveProvisionalWithStatus
    · exact fun _ => trivial
    · intro _ _ _ _ transaction h
      cases h
    · intro normalized handle _ hfree hunused _ transaction h
      cases h
      refine ⟨_, ?_, rolledBack_reserved hr hfree hunused⟩
      simp only [rollbackProvisional]
      exact settleProvisional_pending pending_reserved
  unfold Effect.wp at hspec
  rw [hreserve] at hspec
  exact hspec transaction htoken

/-- Registering a committed locator, in a spelling that normalises to it, finds its handle. -/
theorem registerWithStatus_committed (hr : Consistent r) {spelling : String}
    (handleFactory : ThreadHandleFactory)
    (hspelling : createConversationLocator parseUrl spelling = .ok locator)
    (hc : r.committedHandleToLocator.get? handle = some locator) :
    registerWithStatus parseUrl handleFactory spelling r = (.ok ⟨handle, false⟩, r) := by
  have hget : r.locatorToHandle.get? locator = some handle := (hr.inverse _ _).mpr (.inl hc)
  have hspec : Effect.wp (registerWithStatus parseUrl handleFactory spelling)
      (fun result r' => result = ⟨handle, false⟩ ∧ r' = r) (fun _ _ => False) r := by
    simp only [registerWithStatus, Effect.wp_bind, Effect.wp_ofExcept, hspelling, Effect.wp_get,
      hget, Effect.wp_ite, OrderedMap.has, hc]
    simp
  unfold Effect.wp at hspec
  rcases hresult : registerWithStatus parseUrl handleFactory spelling r with ⟨_ | _, r'⟩ <;>
    rw [hresult] at hspec
  · exact hspec.elim
  · obtain ⟨rfl, rfl⟩ := hspec
    rfl

/-- Any sequence of calls on a new registry, with any locators, tokens and handle factories: the
maps are a bijection split into disjoint committed and provisional parts, only the committed part
resolves, every token takes effect at most once, a rollback undoes its reservation, a call that
throws changes nothing, and a committed locator keeps its handle. -/
theorem registry_representation (calls : List RegistryCall) :
    let r := ThreadRegistry.performAll parseUrl {} calls
    (∀ handle, ¬ (r.committedHandleToLocator.has handle ∧ r.provisionalHandleToEntry.has handle)) ∧
    (∀ locator handle,
      r.locatorToHandle.get? locator = some handle ↔ Bound r.toRegistryMaps handle locator) ∧
    (∀ handle locator locator', Bound r.toRegistryMaps handle locator →
      Bound r.toRegistryMaps handle locator' → locator = locator') ∧
    (∀ handle locator, resolve r handle = .ok locator ↔
      r.committedHandleToLocator.get? handle = some locator) ∧
    (∀ handle, handle ∈ knownThreads r ↔ registrationState r handle = .ok .committed) ∧
    (∀ handle entry, r.provisionalHandleToEntry.get? handle = some entry →
      resolve r handle = .error (.ofCode .threadNotFound) ∧ handle ∉ knownThreads r) ∧
    (∀ transaction, effects parseUrl transaction {} calls ≤ 1) ∧
    (∀ locator handleFactory result r' transaction,
      reserveProvisionalWithStatus parseUrl handleFactory locator r = (.ok result, r') →
      result.transaction = some transaction →
      ∃ r'', rollbackProvisional transaction r' = (.ok true, r'') ∧
        r''.toRegistryMaps = r.toRegistryMaps) ∧
    (∀ call e r', RegistryCall.perform parseUrl call r = (.error e, r') → r' = r) ∧
    (∀ earlier later handle locator spelling handleFactory, calls = earlier ++ later →
      (ThreadRegistry.performAll parseUrl {} earlier).committedHandleToLocator.get? handle =
        some locator →
      createConversationLocator parseUrl spelling = .ok locator →
      registerWithStatus parseUrl handleFactory spelling r = (.ok ⟨handle, false⟩, r) ∧
        register parseUrl handleFactory spelling r = (.ok handle, r)) := by
  intro r
  have hr : Consistent r := consistent_empty.performAll parseUrl calls
  refine ⟨?_, hr.inverse, fun _ _ _ => hr.bound_unique, ?_, ?_, ?_,
    fun _ => effects_le_one parseUrl consistent_empty calls,
    fun _ _ _ _ _ => rollback_after_reserve parseUrl hr, ?_, ?_⟩
  · -- The invariant keeps the two parts disjoint.
    rintro handle ⟨hc, hp⟩
    obtain ⟨locator, hc⟩ := (OrderedMap.has_iff _ _).mp hc
    rw [OrderedMap.has, hr.disjoint _ _ hc] at hp
    cases hp
  · intro handle locator
    unfold resolve
    cases r.committedHandleToLocator.get? handle <;> simp
  · intro handle
    rw [knownThreads, OrderedMap.mem_keys, ← OrderedMap.has_iff, registrationState]
    grind
  · intro handle entry hp
    -- A provisional handle has no committed locator.
    have hc : r.committedHandleToLocator.get? handle = none := by
      by_contra hsome
      obtain ⟨locator, hc⟩ := Option.ne_none_iff_exists'.mp hsome
      rw [hr.disjoint _ _ hc] at hp
      cases hp
    refine ⟨by rw [resolve, hc], ?_⟩
    rw [knownThreads, OrderedMap.mem_keys, hc]
    simp
  · -- The transitions that throw have changed nothing.
    intro call e r' hthrow
    have htransition : Transition r call (.error e) r' := by
      simpa only [hthrow] using perform_transition parseUrl call r
    cases htransition
    rfl
  · -- What was committed before stays committed, so the spelling is found under its handle.
    rintro earlier later handle locator spelling handleFactory rfl hc hspelling
    have hc' : r.committedHandleToLocator.get? handle = some locator := by
      have hkept := committed_performAll parseUrl (consistent_empty.performAll parseUrl earlier)
        later hc
      rwa [ThreadRegistry.performAll, ThreadRegistry.performAll, ← List.foldl_append] at hkept
    have hsame := registerWithStatus_committed parseUrl hr handleFactory hspelling hc'
    refine ⟨hsame, ?_⟩
    show Effect.andThen (registerWithStatus parseUrl handleFactory spelling) _ r = _
    rw [Effect.andThen, hsame]
    rfl

end ThreadRegistry

end Threadwire
