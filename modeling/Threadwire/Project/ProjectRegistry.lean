import Threadwire.Collections.OrderedMap
import Threadwire.Domain.ProjectIdentity
import Threadwire.Machine.Runs
import Threadwire.Routing.ThreadRegistry

/-!
# The project registry

`project/ProjectRegistry.ts`: opaque handles for project locators, one for each locator.
-/

namespace Threadwire

/-- `MAX_PROJECT_HANDLE_COLLISION_ATTEMPTS`. -/
def MAX_PROJECT_HANDLE_COLLISION_ATTEMPTS : ℕ := 8

/-- `ProjectRegistry`. -/
structure ProjectRegistry where
  projects : OrderedMap ProjectHandle ProjectLocator := .empty
  handlesByLocator : OrderedMap ProjectLocator ProjectHandle := .empty

namespace ProjectRegistry

/-- The loop of `register`: the first handle, of those that remain to be tried, that is not in
use. -/
def allocateHandle (r : ProjectRegistry) (handleFactory : ThreadHandleFactory) :
    (remaining attempt : ℕ) → Except ThrownError ProjectHandle
  | 0, _ => .error (.ofCode .projectHandleCollision)
  | remaining + 1, attempt => do
    let handle ← handleFactory attempt >>= createOpaqueProjectHandle
    if r.projects.has handle then allocateHandle r handleFactory remaining (attempt + 1)
    else pure handle

/-- `register`: the handle and the registry after the call. A call that throws has changed nothing. -/
def register (platform : Whatwg.UrlPlatform) (r : ProjectRegistry)
    (handleFactory : ThreadHandleFactory) (locator : String) :
    Except ThrownError (ProjectHandle × ProjectRegistry) := do
  let validatedLocator ← createProjectLocator platform locator
  match r.handlesByLocator.get? validatedLocator with
  | some existingHandle => pure (existingHandle, r)
  | none =>
    let handle ← allocateHandle r handleFactory MAX_PROJECT_HANDLE_COLLISION_ATTEMPTS 0
    pure (handle, {
      projects := r.projects.set handle validatedLocator
      handlesByLocator := r.handlesByLocator.set validatedLocator handle })

/-- An allocated handle is not in use. -/
theorem has_allocateHandle {r : ProjectRegistry} {handleFactory : ThreadHandleFactory}
    {remaining attempt : ℕ} {handle : ProjectHandle}
    (h : r.allocateHandle handleFactory remaining attempt = .ok handle) :
    r.projects.get? handle = none := by
  induction remaining generalizing attempt with
  | zero => cases h
  | succ remaining ih =>
    rw [allocateHandle] at h
    cases hfactory : handleFactory attempt >>= createOpaqueProjectHandle with
    | error e =>
      rw [hfactory] at h
      cases h
    | ok next =>
      rw [hfactory] at h
      simp only [bind, Except.bind] at h
      split at h
      · exact ih h
      · next hfree =>
          cases h
          exact Option.not_isSome_iff_eq_none.mp hfree

/-- What a call of `register` that returns has done: it found the handle of the locator, or it has
registered a new one. -/
theorem register_eq_ok {platform : Whatwg.UrlPlatform} {r r' : ProjectRegistry}
    {handleFactory : ThreadHandleFactory} {value : String} {handle : ProjectHandle}
    (h : r.register platform handleFactory value = .ok (handle, r')) :
    ∃ locator, createProjectLocator platform value = .ok locator ∧
      ((r.handlesByLocator.get? locator = some handle ∧ r' = r) ∨
        (r.handlesByLocator.get? locator = none ∧ r.projects.get? handle = none ∧
          r' = { projects := r.projects.set handle locator
                 handlesByLocator := r.handlesByLocator.set locator handle })) := by
  unfold register at h
  cases hlocator : createProjectLocator platform value with
  | error e =>
    rw [hlocator] at h
    cases h
  | ok locator =>
    rw [hlocator] at h
    simp only [bind, Except.bind] at h
    refine ⟨locator, rfl, ?_⟩
    split at h
    · next existing hexisting =>
        cases h
        exact .inl ⟨hexisting, rfl⟩
    · next hnone =>
        split at h
        · cases h
        · next allocated hallocated =>
            cases h
            exact .inr ⟨hnone, has_allocateHandle hallocated, rfl⟩

/-- `resolve`. -/
def resolve (r : ProjectRegistry) (handle : ProjectHandle) : Except ThrownError ProjectLocator :=
  match r.projects.get? handle with
  | some locator => .ok locator
  | none => .error (.ofCode .projectNotFound)

end ProjectRegistry

/-- A registry with the registrations that have returned a handle. -/
structure ProjectRegistrySystem extends ProjectRegistry where
  registered : List (String × ProjectHandle) := []

namespace ProjectRegistrySystem

/-- A call of `register`. -/
def step (platform : Whatwg.UrlPlatform) (s : ProjectRegistrySystem)
    (call : String × ThreadHandleFactory) : Option ProjectRegistrySystem :=
  match s.toProjectRegistry.register platform call.2 call.1 with
  | .ok (handle, r) => some { r with registered := s.registered ++ [(call.1, handle)] }
  | .error _ => some s

/-- The two maps are inverse to each other, and every handle that was returned is that of its
locator. -/
structure Sound (platform : Whatwg.UrlPlatform) (s : ProjectRegistrySystem) : Prop where
  inverse : ∀ handle locator,
    s.projects.get? handle = some locator ↔ s.handlesByLocator.get? locator = some handle
  registered : ∀ value handle, (value, handle) ∈ s.registered →
    ∃ locator, createProjectLocator platform value = .ok locator ∧
      s.handlesByLocator.get? locator = some handle

variable {platform : Whatwg.UrlPlatform} {s t : ProjectRegistrySystem}

theorem sound_init : Sound platform {} where
  inverse _ _ := by
    rw [OrderedMap.get?_empty, OrderedMap.get?_empty]
    exact ⟨nofun, nofun⟩
  registered _ _ h := absurd h List.not_mem_nil

/-- No registration is forgotten. -/
theorem registered_step {call : String × ThreadHandleFactory} (hstep : s.step platform call = some t) :
    s.registered ⊆ t.registered := by
  unfold ProjectRegistrySystem.step at hstep
  split at hstep
  · cases hstep
    exact List.subset_append_left _ _
  · cases hstep
    exact List.Subset.refl _

/-- The step lemma. -/
theorem Sound.step {call : String × ThreadHandleFactory} (h : Sound platform s)
    (hstep : s.step platform call = some t) : Sound platform t := by
  unfold ProjectRegistrySystem.step at hstep
  split at hstep
  · next handle r hregister =>
      cases hstep
      obtain ⟨locator, hlocator, ⟨hexisting, rfl⟩ | ⟨hnone, hfree, rfl⟩⟩ :=
        ProjectRegistry.register_eq_ok hregister
      · -- The locator was registered before: nothing changes but the list of the calls.
        refine ⟨h.inverse, fun value other hmem => ?_⟩
        rcases List.mem_append.mp hmem with hmem | hmem
        · exact h.registered value other hmem
        · cases List.mem_singleton.mp hmem
          exact ⟨locator, hlocator, hexisting⟩
      · -- The handle is new, so the two maps grow by one pair that meets no other.
        refine ⟨fun other otherLocator => ?_, fun value other hmem => ?_⟩
        · have hinverse := h.inverse other otherLocator
          simp only [OrderedMap.get?_set]
          by_cases hhandle : handle = other
          · subst hhandle
            rw [hfree] at hinverse
            by_cases hsame : locator = otherLocator
            · simp [hsame]
            · simpa [hsame] using hinverse
          · by_cases hsame : locator = otherLocator
            · subst hsame
              rw [hnone] at hinverse
              simpa [hhandle] using hinverse
            · simpa [hhandle, hsame] using hinverse
        · rcases List.mem_append.mp hmem with hmem | hmem
          · obtain ⟨otherLocator, hother, hget⟩ := h.registered value other hmem
            refine ⟨otherLocator, hother, ?_⟩
            -- A locator that was registered is not the new one.
            have hne : locator ≠ otherLocator := by
              rintro rfl
              rw [hnone] at hget
              cases hget
            simpa [OrderedMap.get?_set, hne] using hget
          · cases List.mem_singleton.mp hmem
            exact ⟨locator, hlocator, by simp [OrderedMap.get?_set]⟩
  · cases hstep
    exact h

/-- The run lemma. -/
theorem sound_of_exec {calls : List (String × ThreadHandleFactory)}
    (hrun : Machine.exec (ProjectRegistrySystem.step platform) {} calls = some t) :
    Sound platform t :=
  Machine.exec_invariant (fun _ _ _ h hstep => h.step hstep) sound_init hrun

/-- Two registrations return the same handle exactly if their locators are the same. -/
theorem Sound.handle_eq_iff (h : Sound platform s) {value value' : String}
    {handle handle' : ProjectHandle} {locator locator' : ProjectLocator}
    (hmem : (value, handle) ∈ s.registered) (hmem' : (value', handle') ∈ s.registered)
    (hlocator : createProjectLocator platform value = .ok locator)
    (hlocator' : createProjectLocator platform value' = .ok locator') :
    handle = handle' ↔ locator = locator' := by
  obtain ⟨_, hok, hget⟩ := h.registered value handle hmem
  obtain ⟨_, hok', hget'⟩ := h.registered value' handle' hmem'
  rw [hlocator] at hok
  rw [hlocator'] at hok'
  cases hok
  cases hok'
  constructor
  · rintro rfl
    have hprojects := (h.inverse handle locator).mpr hget
    rw [(h.inverse handle locator').mpr hget'] at hprojects
    exact (Option.some.inj hprojects).symm
  · rintro rfl
    rw [hget] at hget'
    exact Option.some.inj hget'

/-- A registered handle resolves to the locator of its registration. -/
theorem Sound.resolve (h : Sound platform s) {value : String} {handle : ProjectHandle}
    {locator : ProjectLocator} (hmem : (value, handle) ∈ s.registered)
    (hlocator : createProjectLocator platform value = .ok locator) :
    s.toProjectRegistry.resolve handle = .ok locator := by
  obtain ⟨_, hok, hget⟩ := h.registered value handle hmem
  rw [hlocator] at hok
  cases hok
  rw [ProjectRegistry.resolve, (h.inverse handle locator).mpr hget]

end ProjectRegistrySystem

end Threadwire
