import Threadwire.Cdp.ChromeRemoteInterfaceHelpers
import Threadwire.Project.ProjectRegistry

/-!
# Locators as the identity of projects

The registry and the route check compare locators as strings. Two accepted spellings of one project
have the same locator exactly if they have the same marks: an empty query or an empty fragment, which
the checks let pass, stays in the locator.
-/

namespace Threadwire

open Whatwg (marked)

/-- Two URLs have the same marks of a query and of a fragment. -/
def SameMarks (url url' : Whatwg.Url) : Prop :=
  url.query = url'.query ∧ url.fragment = url'.fragment

section Locators

variable {platform : Whatwg.UrlPlatform} {value value' : String} {url url' : Whatwg.Url}
  {component component' : List Char}

theorem marked_inj {query query' fragment fragment' : Option (List Char)}
    (hquery : ∀ text ∈ query, text = []) (hquery' : ∀ text ∈ query', text = [])
    (hfragment : ∀ text ∈ fragment, text = []) (hfragment' : ∀ text ∈ fragment', text = []) :
    marked '?' query ++ marked '#' fragment = marked '?' query' ++ marked '#' fragment' ↔
      query = query' ∧ fragment = fragment' := by
  have hcases : ∀ {text : Option (List Char)}, (∀ t ∈ text, t = []) → text = none ∨ text = some [] := by
    intro text h
    cases text with
    | none => exact .inl rfl
    | some t => exact .inr (congrArg some (h t rfl))
  rcases hcases hquery with rfl | rfl <;> rcases hcases hquery' with rfl | rfl <;>
    rcases hcases hfragment with rfl | rfl <;> rcases hcases hfragment' with rfl | rfl <;>
    simp [marked]

/-- A locator tells the component and the marks of the URL it was made of. -/
theorem locatorOf_inj (h : Spells platform value url component)
    (h' : Spells platform value' url' component') :
    locatorOf url component = locatorOf url' component' ↔
      component = component' ∧ SameMarks url url' := by
  have hlength : component.length = component'.length :=
    (length_of_canonical h.canonical).trans (length_of_canonical h'.canonical).symm
  rw [locatorOf, locatorOf, String.ofList_inj, href_project, href_project]
  constructor
  · intro heq
    simp only [List.append_assoc] at heq
    obtain ⟨hcomponent, hrest⟩ := List.append_inj (List.append_cancel_left heq) hlength
    have hmarks := List.append_cancel_left hrest
    exact ⟨hcomponent, (marked_inj h.query h'.query h.fragment h'.fragment).mp hmarks⟩
  · rintro ⟨rfl, hquery, hfragment⟩
    rw [hquery, hfragment]

theorem projectUrl_eq (component : List Char) : projectUrl component =
    String.ofList (Whatwg.plainUrl "chatgpt.com".toList (projectSegments component) none none).href := by
  have hhref := href_project component none none
  refine (congrArg String.ofList ?_).trans (congrArg String.ofList hhref.symm)
  simp only [marked, Option.map_none, Option.getD_none, List.append_nil]

/-- The locator is the canonical URL exactly if the URL has neither a query nor a fragment. -/
theorem locatorOf_eq_projectUrl (h : Spells platform value url component) :
    locatorOf url component = projectUrl component ↔ url.query = none ∧ url.fragment = none := by
  have hnone : ∀ text ∈ (none : Option (List Char)), text = [] := fun _ habsurd => nomatch habsurd
  rw [locatorOf, projectUrl_eq, String.ofList_inj, href_project, href_project]
  rw [List.append_assoc _ _ (marked '#' url.fragment), List.append_assoc _ _ (marked '#' none),
    List.append_right_inj]
  exact marked_inj h.query hnone h.fragment hnone

theorem Spells.createProjectLocator (h : Spells platform value url component) :
    Threadwire.createProjectLocator platform value = .ok (locatorOf url component) :=
  createProjectLocator_eq_ok.mpr ⟨url, component, h, rfl⟩

end Locators

/-- What identifies a project. An accepted string spells the URL of a project, and its locator is the
canonical one exactly if the URL has neither a query nor a fragment; locators, handles and route
checks tell two spellings apart exactly by the component and the marks. -/
structure ProjectLocatorLaw (platform : Whatwg.UrlPlatform) : Prop where
  canonical : ∀ value locator, createProjectLocator platform value = .ok locator →
    ∃ url component, Spells platform value url component ∧
      (locator = projectUrl component ↔ url.query = none ∧ url.fragment = none)
  same_locator : ∀ value url component value' url' component',
    Spells platform value url component → Spells platform value' url' component' →
    (createProjectLocator platform value = createProjectLocator platform value' ↔
      component = component' ∧ SameMarks url url')
  one_handle : ∀ calls final, Machine.exec (ProjectRegistrySystem.step platform) {} calls = some final →
    ∀ value url component handle value' url' component' handle',
      (value, handle) ∈ final.registered → (value', handle') ∈ final.registered →
      Spells platform value url component → Spells platform value' url' component' →
      (handle = handle' ↔ component = component' ∧ SameMarks url url')
  route : ∀ calls final, Machine.exec (ProjectRegistrySystem.step platform) {} calls = some final →
    ∀ value url component handle rawUrl url' component',
      (value, handle) ∈ final.registered → Spells platform value url component →
      Spells platform rawUrl url' component' →
      ∃ locator, final.toProjectRegistry.resolve handle = .ok locator ∧
        (routeMatchesExpected platform rawUrl (.projectRoot locator) = true ↔
          component' = component ∧ SameMarks url' url)

/-- Locators are canonical, and identify projects, up to the marks of empty queries and fragments. -/
theorem project_locator_law (platform : Whatwg.UrlPlatform) : ProjectLocatorLaw platform where
  canonical value locator hlocator := by
    obtain ⟨url, component, h, rfl⟩ := createProjectLocator_eq_ok.mp hlocator
    exact ⟨url, component, h, locatorOf_eq_projectUrl h⟩
  same_locator value url component value' url' component' h h' := by
    rw [h.createProjectLocator, h'.createProjectLocator, Except.ok.injEq]
    exact locatorOf_inj h h'
  one_handle calls final hrun value url component handle value' url' component' handle' hmem hmem'
      h h' := by
    have hsound := ProjectRegistrySystem.sound_of_exec hrun
    rw [hsound.handle_eq_iff hmem hmem' h.createProjectLocator h'.createProjectLocator]
    exact locatorOf_inj h h'
  route calls final hrun value url component handle rawUrl url' component' hmem h h' := by
    have hsound := ProjectRegistrySystem.sound_of_exec hrun
    refine ⟨_, hsound.resolve hmem h.createProjectLocator, ?_⟩
    rw [routeMatchesExpected, h'.createProjectLocator]
    exact beq_iff_eq.trans (locatorOf_inj h' h)

/-! ## An empty query -/

/-- Hosts are in lower-case ASCII, and no other scheme is known. -/
def asciiHosts : Whatwg.UrlPlatform where
  parseHost host := some (host.map Char.toLower)
  parseOther _ _ := none
  otherOrigin _ := "null".toList

/-- With an empty query, the locator of a project is another one: a second handle, and another
route. -/
theorem project_locator_empty_query :
    let value := "https://chatgpt.com/g/g-p-00000000000000000000000000000030/project"
    createProjectLocator asciiHosts value = .ok value ∧
      createProjectLocator asciiHosts (value ++ "?") = .ok (value ++ "?") ∧
      routeMatchesExpected asciiHosts (value ++ "?") (.projectRoot value) = false ∧
      (Machine.exec (ProjectRegistrySystem.step asciiHosts) {}
        [(value, fun _ => .ok "a"), (value ++ "?", fun _ => .ok "b")]).map
          (fun final => final.registered) =
        some [(value, "prj_a"), (value ++ "?", "prj_b")] := by
  decide +kernel

end Threadwire
