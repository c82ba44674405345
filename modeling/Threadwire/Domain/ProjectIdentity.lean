import Threadwire.Domain.ThreadIdentity
import Threadwire.Text.Strings
import Threadwire.Text.UrlRoundTrip

/-!
# Project names, handles and locators

`domain/ProjectIdentity.ts`. A project locator is meant to be the one URL of a project. It is the
serialization of the URL whose parts were checked, and the getters that check its query and its
fragment do not see one that is present but empty: `createProjectLocator_eq_ok` says what is accepted
and what is made of it.
-/

namespace Threadwire

open Whatwg (plainUrl joinPath marked IsSegment)

/-- The parts of a URL record that the locator checks read. -/
def urlParts (platform : Whatwg.UrlPlatform) (url : Whatwg.Url) : Url where
  protocol := String.ofList url.protocol
  origin := String.ofList (url.origin platform)
  username := String.ofList url.username
  password := String.ofList url.password
  pathname := String.ofList url.pathname

/-- `new URL(value)`, for the functions that take it as a parameter. -/
def urlParser (platform : Whatwg.UrlPlatform) : UrlParser :=
  fun value => (Whatwg.parse platform value.toList).map (urlParts platform)

/-- `MAX_PROJECT_NAME_CODE_POINTS`. -/
def MAX_PROJECT_NAME_CODE_POINTS : ℕ := 50

/-- `MAX_PROJECT_NAME_BYTES`. -/
def MAX_PROJECT_NAME_BYTES : ℕ := 400

/-- What the names of projects take from Unicode: the normal form NFC, and whether a text has a
character of one of the categories Cc and Cf. -/
structure UnicodePlatform where
  normalizeNfc : Text → Text
  hasControlOrFormat : Text → Bool

/-- `createProjectName`. -/
def createProjectName (unicode : UnicodePlatform) (value : Text) : Except ThrownError Text :=
  if value = [] ∨ value ≠ value.trim ∨ unicode.normalizeNfc value ≠ value ∨
      value.codePointLength > MAX_PROJECT_NAME_CODE_POINTS ∨
      value.byteLength > MAX_PROJECT_NAME_BYTES ∨ unicode.hasControlOrFormat value = true then
    .error { head := ⟨.typeError, "Project name is invalid."⟩ }
  else .ok value

/-- `ProjectHandle`. -/
abbrev ProjectHandle := String

/-- `text.replace(/\/$/, "")`. -/
def dropTrailingSlash (text : List Char) : List Char :=
  if text.getLast? = some '/' then text.dropLast else text

/-- `/^\/g\/g-p-[0-9a-f]{32}\/project\/?$/`. -/
def isProjectPath (pathname : List Char) : Bool :=
  match pathname.splitOn '/' with
  | [[], ['g'], component, ['p', 'r', 'o', 'j', 'e', 'c', 't']] => isCanonicalProjectComponent component
  | [[], ['g'], component, ['p', 'r', 'o', 'j', 'e', 'c', 't'], []] =>
    isCanonicalProjectComponent component
  | _ => false

/-- `createOpaqueProjectHandle`. -/
def createOpaqueProjectHandle (value : String) : Except ThrownError ProjectHandle :=
  if 1 ≤ value.toList.length ∧ value.toList.length ≤ 128 ∧ value.toList.all isOpaqueIdChar = true then
    .ok ("prj_" ++ value)
  else .error { head := ⟨.typeError, "Project handle source is invalid."⟩ }

/-- `createProjectLocator`. -/
def createProjectLocator (platform : Whatwg.UrlPlatform) (value : String) :
    Except ThrownError ProjectLocator :=
  match Whatwg.parse platform value.toList with
  | none => .error (.ofCode .projectLocatorInvalid)
  | some url =>
    if url.protocol ≠ "https:".toList ∨ url.hostname ≠ "chatgpt.com".toList ∨ url.username ≠ [] ∨
        url.password ≠ [] ∨ url.portText ≠ [] ∨ url.search ≠ [] ∨ url.hash ≠ [] ∨
        isProjectPath url.pathname = false then
      .error (.ofCode .projectLocatorInvalid)
    else
      let url := url.setPathname (dropTrailingSlash url.pathname)
      .ok (String.ofList (dropTrailingSlash url.href))

/-! ## The accepted spellings -/

/-- The path segments of a project. -/
def projectSegments (component : List Char) : List (List Char) :=
  ["g".toList, component, "project".toList]

/-- The canonical URL of a project. -/
def projectUrl (component : List Char) : ProjectLocator :=
  String.ofList ("https://chatgpt.com/g/".toList ++ component ++ "/project".toList)

/-- A string spells the URL of a project: the parsed URL has the project's path, with a trailing
slash or without, and at most empty credentials, port, query and fragment. -/
structure Spells (platform : Whatwg.UrlPlatform) (value : String) (url : Whatwg.Url)
    (component : List Char) : Prop where
  parsed : Whatwg.parse platform value.toList = some url
  scheme : url.scheme = "https".toList
  host : url.host = some "chatgpt.com".toList
  username : url.username = []
  password : url.password = []
  port : url.port = none
  query : ∀ text ∈ url.query, text = []
  fragment : ∀ text ∈ url.fragment, text = []
  path : url.path = .segments (projectSegments component) ∨
    url.path = .segments (projectSegments component ++ [[]])
  canonical : isCanonicalProjectComponent component = true

/-- The characters of identifiers need no encoding. -/
theorem clean_of_isOpaqueIdChar {c : Char} (h : isOpaqueIdChar c = true) :
    Whatwg.pathSet c = false ∧ Whatwg.isSlash c = false := by
  have hall : ∀ n < 128, isOpaqueIdChar (Char.ofNat n) = true →
      Whatwg.pathSet (Char.ofNat n) = false ∧ Whatwg.isSlash (Char.ofNat n) = false := by
    decide
  have hlt : c.toNat < 128 := by
    simp only [isOpaqueIdChar, Bool.or_eq_true, Bool.and_eq_true, decide_eq_true_eq, beq_iff_eq] at h
    rcases h with (((h | h) | h) | rfl) | rfl
    · exact Nat.lt_of_le_of_lt h.2 (by decide)
    · exact Nat.lt_of_le_of_lt h.2 (by decide)
    · exact Nat.lt_of_le_of_lt h.2 (by decide)
    · decide
    · decide
  have hc := hall c.toNat hlt
  rw [Char.ofNat_toNat] at hc
  exact hc h

/-- A lower hexadecimal digit may stand in an opaque id. -/
theorem isOpaqueIdChar_of_isLowerHex {c : Char} (h : isLowerHex c = true) :
    isOpaqueIdChar c = true := by
  simp only [isLowerHex, isOpaqueIdChar, Bool.or_eq_true, Bool.and_eq_true, decide_eq_true_eq,
    beq_iff_eq] at h ⊢
  rcases h with h | h
  · exact .inl (.inl (.inr h))
  · exact .inl (.inl (.inl (.inr ⟨h.1, Char.le_trans h.2 (by decide)⟩)))

/-- A canonical component is `g-p-` with 32 digits. -/
theorem isCanonicalProjectComponent_iff {component : List Char} :
    isCanonicalProjectComponent component = true ↔ ∃ digits : List Char,
      component = "g-p-".toList ++ digits ∧ digits.length = 32 ∧ digits.all isLowerHex = true := by
  unfold isCanonicalProjectComponent
  split
  · next digits =>
      rw [Bool.and_eq_true, beq_iff_eq]
      constructor
      · exact fun h => ⟨digits, rfl, h⟩
      · rintro ⟨_, heq, h⟩
        cases heq
        exact h
  · next hno =>
      constructor
      · exact fun h => nomatch h
      · rintro ⟨digits, rfl, -⟩
        exact absurd rfl (hno digits)

/-- A canonical component is `g-p-` and 32 digits. -/
theorem length_of_canonical {component : List Char}
    (h : isCanonicalProjectComponent component = true) : component.length = 36 := by
  obtain ⟨digits, rfl, hlength, -⟩ := isCanonicalProjectComponent_iff.mp h
  rw [List.length_append, hlength]
  rfl

/-- A canonical component is a path segment that the URL parser keeps. -/
theorem isSegment_of_canonical {component : List Char}
    (h : isCanonicalProjectComponent component = true) : IsSegment component := by
  refine Whatwg.isSegment_of_length (fun c hc => ?_) (by rw [length_of_canonical h]; decide)
  obtain ⟨digits, rfl, -, hdigits⟩ := isCanonicalProjectComponent_iff.mp h
  rcases List.mem_append.mp hc with hc | hc
  · exact clean_of_isOpaqueIdChar (List.all_eq_true.mp (by decide) c hc)
  · exact clean_of_isOpaqueIdChar (isOpaqueIdChar_of_isLowerHex (List.all_eq_true.mp hdigits c hc))

/-- So are all the segments of a project's path. -/
theorem isSegment_project {component : List Char}
    (h : isCanonicalProjectComponent component = true) :
    ∀ s ∈ projectSegments component, IsSegment s := by
  intro s hs
  simp only [projectSegments, List.mem_cons, List.not_mem_nil, or_false] at hs
  rcases hs with rfl | rfl | rfl
  · exact Whatwg.isSegment_of_check (by decide) (by decide)
  · exact isSegment_of_canonical h
  · exact Whatwg.isSegment_of_check (by decide) (by decide)

/-! ## Trailing slashes -/

/-- One slash is dropped. -/
theorem dropTrailingSlash_slash (text : List Char) : dropTrailingSlash (text ++ ['/']) = text := by
  rw [dropTrailingSlash, List.getLast?_concat, if_pos rfl, List.dropLast_concat]

/-- Without a slash at the end nothing is dropped. -/
theorem dropTrailingSlash_eq_self {text : List Char} (h : text.getLast? ≠ some '/') :
    dropTrailingSlash text = text := if_neg h

/-- A path whose last segment is not empty has no trailing slash. -/
theorem dropTrailingSlash_joinPath (front : List (List Char)) {last : List Char}
    (hlast : IsSegment last) (hne : last ≠ []) :
    dropTrailingSlash (joinPath (front ++ [last])) = joinPath (front ++ [last]) := by
  refine dropTrailingSlash_eq_self ?_
  rcases List.eq_nil_or_concat last with rfl | ⟨init, c, rfl⟩
  · exact absurd rfl hne
  · have hend : joinPath (front ++ [init ++ [c]]) = (joinPath front ++ '/' :: init) ++ [c] := by
      rw [Whatwg.joinPath_append, List.append_assoc]
      simp [joinPath]
    rw [List.concat_eq_append, hend, List.getLast?_concat]
    rintro habsurd
    have hclean := hlast.clean c (by simp)
    rw [Option.some.inj habsurd] at hclean
    exact absurd hclean.2 (by decide)

/-- An empty last segment is a trailing slash. -/
theorem dropTrailingSlash_joinPath_nil (front : List (List Char)) :
    dropTrailingSlash (joinPath (front ++ [[]])) = joinPath front := by
  rw [Whatwg.joinPath_append]
  exact dropTrailingSlash_slash (joinPath front)

/-! ## What is accepted, and what is made of it -/

/-- The segments of a path without slashes in them. -/
theorem splitOn_joinPath {segments : List (List Char)} (hne : segments ≠ [])
    (h : ∀ s ∈ segments, IsSegment s) : (joinPath segments).splitOn '/' = [] :: segments := by
  rw [List.splitOn_eq_splitOnP]
  refine Whatwg.splitOnP_joinPath rfl hne fun s hs c hc => ?_
  refine beq_eq_false_iff_ne.mpr fun habsurd => ?_
  have hclean := ((h s hs).clean c hc).2
  rw [habsurd] at hclean
  exact absurd hclean (by decide)

/-- The project paths. -/
theorem isProjectPath_joinPath {segments : List (List Char)} (h : ∀ s ∈ segments, IsSegment s) :
    isProjectPath (joinPath segments) = true ↔ ∃ component,
      isCanonicalProjectComponent component = true ∧
        (segments = projectSegments component ∨ segments = projectSegments component ++ [[]]) := by
  by_cases hne : segments = []
  · subst hne
    constructor
    · have hfalse : isProjectPath (joinPath []) = false := by decide
      intro habsurd
      rw [hfalse] at habsurd
      cases habsurd
    · rintro ⟨component, -, habsurd | habsurd⟩
      · cases habsurd
      · cases habsurd
  · rw [isProjectPath, splitOn_joinPath hne h]
    constructor
    · intro hpath
      split at hpath
      · next component heq =>
          cases heq
          exact ⟨component, hpath, .inl rfl⟩
      · next component heq =>
          cases heq
          exact ⟨component, hpath, .inr rfl⟩
      · cases hpath
    · rintro ⟨component, hcanonical, rfl | rfl⟩
      · exact hcanonical
      · exact hcanonical

/-- The host is one that the URL parser keeps. -/
theorem isPlainHost_chatgpt : Whatwg.IsPlainHost "chatgpt.com".toList :=
  Whatwg.isPlainHost_of_check (by decide) (by decide)

/-- The URL of a project with an accepted query and fragment. -/
theorem isPlain_project {component : List Char} {query fragment : Option (List Char)}
    (h : isCanonicalProjectComponent component = true) (hquery : ∀ text ∈ query, text = [])
    (hfragment : ∀ text ∈ fragment, text = []) :
    Whatwg.IsPlain "chatgpt.com".toList (projectSegments component) query fragment where
  host := isPlainHost_chatgpt
  path := List.cons_ne_nil _ _
  segments := isSegment_project h
  query text htext c hc := by
    rw [hquery text htext] at hc
    exact absurd hc List.not_mem_nil
  fragment text htext c hc := by
    rw [hfragment text htext] at hc
    exact absurd hc List.not_mem_nil

/-- The locator that is made of an accepted spelling: the canonical URL, and the marks of a query and a
fragment that are present. -/
def locatorOf (url : Whatwg.Url) (component : List Char) : ProjectLocator :=
  String.ofList
    (plainUrl "chatgpt.com".toList (projectSegments component) url.query url.fragment).href

/-- The spelling of a project's URL. -/
theorem href_project (component : List Char) (query fragment : Option (List Char)) :
    (plainUrl "chatgpt.com".toList (projectSegments component) query fragment).href =
      "https://chatgpt.com/g/".toList ++ component ++ "/project".toList ++ marked '?' query ++
        marked '#' fragment := by
  rw [Whatwg.href_plainUrl]
  simp [projectSegments, joinPath]

/-- The serialization of an accepted URL does not end in a slash. -/
theorem dropTrailingSlash_href {component : List Char} {query fragment : Option (List Char)}
    (hquery : ∀ text ∈ query, text = []) (hfragment : ∀ text ∈ fragment, text = []) :
    dropTrailingSlash
        (plainUrl "chatgpt.com".toList (projectSegments component) query fragment).href =
      (plainUrl "chatgpt.com".toList (projectSegments component) query fragment).href := by
  refine dropTrailingSlash_eq_self ?_
  have hproject : "/project".toList.getLast? = some 't' := by decide
  rw [href_project, List.getLast?_append, List.getLast?_append, List.getLast?_append, hproject]
  cases fragment with
  | some text => simp [marked, hfragment text rfl]
  | none =>
    cases query with
    | some text => simp [marked, hquery text rfl]
    | none => simp [marked]

/-- The port is shown when there is one. -/
theorem portText_eq_nil {url : Whatwg.Url} : url.portText = [] ↔ url.port = none := by
  rw [Whatwg.Url.portText]
  cases url.port with
  | none => simp
  | some port => simp [Nat.toDigits_ne_nil]

/-- No query and an empty query are shown alike. -/
theorem search_eq_nil {url : Whatwg.Url} : url.search = [] ↔ ∀ text ∈ url.query, text = [] := by
  rw [Whatwg.Url.search]
  cases url.query with
  | none => simp
  | some text => cases text <;> simp

/-- No fragment and an empty fragment are shown alike. -/
theorem hash_eq_nil {url : Whatwg.Url} : url.hash = [] ↔ ∀ text ∈ url.fragment, text = [] := by
  rw [Whatwg.Url.hash]
  cases url.fragment with
  | none => simp
  | some text => cases text <;> simp

/-- The protocol is the scheme with its colon. -/
theorem protocol_eq_https {url : Whatwg.Url} :
    url.protocol = "https:".toList ↔ url.scheme = "https".toList := by
  have hcolon : "https:".toList = "https".toList ++ [':'] := rfl
  rw [Whatwg.Url.protocol, hcolon, List.append_left_inj]

/-- The hostname is the host. -/
theorem hostname_eq_chatgpt {url : Whatwg.Url} :
    url.hostname = "chatgpt.com".toList ↔ url.host = some "chatgpt.com".toList := by
  rw [Whatwg.Url.hostname]
  cases url.host with
  | none => exact ⟨fun habsurd => absurd habsurd (by decide), fun habsurd => by cases habsurd⟩
  | some host => exact (Option.some.injEq host _).symm ▸ Iff.rfl

/-- The checks of `createProjectLocator` accept exactly the spellings of project URLs. -/
theorem accepted_iff {platform : Whatwg.UrlPlatform} {value : String} {url : Whatwg.Url}
    (hparsed : Whatwg.parse platform value.toList = some url) :
    ¬ (url.protocol ≠ "https:".toList ∨ url.hostname ≠ "chatgpt.com".toList ∨ url.username ≠ [] ∨
        url.password ≠ [] ∨ url.portText ≠ [] ∨ url.search ≠ [] ∨ url.hash ≠ [] ∨
        isProjectPath url.pathname = false) ↔
      ∃ component, Spells platform value url component := by
  simp only [not_or, ne_eq, not_not, protocol_eq_https, hostname_eq_chatgpt, portText_eq_nil,
    search_eq_nil, hash_eq_nil, Bool.not_eq_false]
  constructor
  · rintro ⟨hscheme, hhost, husername, hpassword, hport, hquery, hfragment, hpath⟩
    have hspecial : (Whatwg.defaultPort url.scheme).isSome = true := by
      rw [hscheme]
      decide
    -- The parser keeps clean segments only, so the path can be read off them.
    obtain ⟨segments, hsegments, hclean⟩ := Whatwg.path_of_parse hparsed hspecial
    have hpathname : url.pathname = joinPath segments := by
      rw [Whatwg.Url.pathname, hsegments]
      rfl
    rw [hpathname] at hpath
    obtain ⟨component, hcanonical, hpath⟩ := (isProjectPath_joinPath hclean).mp hpath
    refine ⟨component, hparsed, hscheme, hhost, husername, hpassword, hport, hquery, hfragment, ?_,
      hcanonical⟩
    rw [hsegments]
    exact hpath.imp (congrArg _) (congrArg _)
  · rintro ⟨component, h⟩
    refine ⟨h.scheme, h.host, h.username, h.password, h.port, h.query, h.fragment, ?_⟩
    -- The path of a project, without its slash or with it.
    rcases h.path with hpath | hpath
    · have hpathname : url.pathname = joinPath (projectSegments component) := by
        rw [Whatwg.Url.pathname, hpath]
        rfl
      rw [hpathname]
      exact (isProjectPath_joinPath (isSegment_project h.canonical)).mpr ⟨_, h.canonical, .inl rfl⟩
    · have hpathname : url.pathname = joinPath (projectSegments component ++ [[]]) := by
        rw [Whatwg.Url.pathname, hpath]
        rfl
      have hclean : ∀ s ∈ projectSegments component ++ [[]], IsSegment s := by
        intro s hs
        rcases List.mem_append.mp hs with hs | hs
        · exact isSegment_project h.canonical s hs
        · exact List.mem_singleton.mp hs ▸ Whatwg.isSegment_nil
      rw [hpathname]
      exact (isProjectPath_joinPath hclean).mpr ⟨_, h.canonical, .inr rfl⟩

/-- The path setter takes the trailing slash away. -/
theorem Spells.setPathname {platform : Whatwg.UrlPlatform} {value : String} {url : Whatwg.Url}
    {component : List Char} (h : Spells platform value url component) :
    url.setPathname (dropTrailingSlash url.pathname) =
      plainUrl "chatgpt.com".toList (projectSegments component) url.query url.fragment := by
  have hlast : IsSegment "project".toList := Whatwg.isSegment_of_check (by decide) (by decide)
  have hdrop : dropTrailingSlash url.pathname = joinPath (projectSegments component) := by
    rw [Whatwg.Url.pathname]
    rcases h.path with hpath | hpath
    · rw [hpath]
      exact dropTrailingSlash_joinPath ["g".toList, component] hlast (by decide)
    · rw [hpath]
      exact dropTrailingSlash_joinPath_nil (projectSegments component)
  obtain ⟨old, hold⟩ : ∃ old, url.path = .segments old := by
    rcases h.path with hpath | hpath
    · exact ⟨_, hpath⟩
    · exact ⟨_, hpath⟩
  have hne : projectSegments component ≠ [] := List.cons_ne_nil _ _
  rw [hdrop, Whatwg.setPathname_joinPath hold hne (isSegment_project h.canonical)]
  obtain ⟨-, hscheme, hhost, husername, hpassword, hport, -, -, -, -⟩ := h
  cases url
  subst hscheme hhost husername hpassword hport
  rfl

/-- What `createProjectLocator` accepts, and what it makes of it. -/
theorem createProjectLocator_eq_ok {platform : Whatwg.UrlPlatform} {value : String}
    {locator : ProjectLocator} :
    createProjectLocator platform value = .ok locator ↔
      ∃ url component, Spells platform value url component ∧ locator = locatorOf url component := by
  unfold createProjectLocator
  split
  · -- What does not parse is refused, and spells nothing.
    next hparsed =>
      constructor
      · intro habsurd
        cases habsurd
      · rintro ⟨url, component, h, -⟩
        rw [h.parsed] at hparsed
        cases hparsed
  · next url hparsed =>
      split
      · next hrefused =>
          constructor
          · intro habsurd
            cases habsurd
          · rintro ⟨other, component, h, -⟩
            rw [h.parsed] at hparsed
            cases hparsed
            exact absurd hrefused ((accepted_iff h.parsed).mpr ⟨component, h⟩)
      · next haccepted =>
          -- The setter takes the slash off the path, and the locator is the URL without it.
          have hlocator : ∀ {component}, Spells platform value url component →
              String.ofList (dropTrailingSlash
                (url.setPathname (dropTrailingSlash url.pathname)).href) =
                locatorOf url component := by
            intro component h
            rw [h.setPathname, dropTrailingSlash_href h.query h.fragment]
            rfl
          constructor
          · intro hresult
            obtain ⟨component, h⟩ := (accepted_iff hparsed).mp haccepted
            exact ⟨url, component, h, (Except.ok.inj hresult).symm.trans (hlocator h)⟩
          · rintro ⟨other, component, h, rfl⟩
            rw [h.parsed] at hparsed
            cases hparsed
            exact congrArg Except.ok (hlocator h)

/-- What `createProjectLocator` makes of a locator, if it accepts it, is the locator. -/
theorem createProjectLocator_of_locator {platform : Whatwg.UrlPlatform} {value : String}
    {locator locator' : ProjectLocator} (h : createProjectLocator platform value = .ok locator)
    (h' : createProjectLocator platform locator = .ok locator') : locator' = locator := by
  obtain ⟨url, component, hspells, rfl⟩ := createProjectLocator_eq_ok.mp h
  obtain ⟨url', component', hspells', rfl⟩ := createProjectLocator_eq_ok.mp h'
  have hparsed := hspells'.parsed
  rw [locatorOf, String.toList_ofList,
    Whatwg.parse_href_map platform (isPlain_project hspells.canonical hspells.query hspells.fragment),
    Option.map_eq_some_iff] at hparsed
  obtain ⟨host, -, rfl⟩ := hparsed
  have hcomponent : component' = component := by
    rcases hspells'.path with hpath | hpath
    · cases hpath
      rfl
    · cases hpath
  rw [hcomponent]
  rfl

end Threadwire
