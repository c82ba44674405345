import Threadwire.Domain.ProjectIdentity

/-!
# Which project a conversation belongs to

`createConversationLocator_eq_ok` says what a conversation locator is: the canonical URL of one of the
two conversation paths. From it follows what `conversationBelongsToProject` decides.
-/

namespace Threadwire

open Whatwg (plainUrl joinPath marked IsSegment)

/-- The segments of a conversation path: outside projects, or in a project, whose segment may say
more than its component. -/
inductive ConversationSegments : List (List Char) → Prop
  | unscoped (conversation : List Char) (hne : conversation ≠ []) :
    ConversationSegments ["c".toList, conversation]
  | inProject (component conversation : List Char) (hcomponent : isProjectComponent component = true)
    (hne : conversation ≠ []) :
    ConversationSegments ["g".toList, component, "c".toList, conversation]

/-- A string spells the URL of a conversation, with a trailing slash or without. -/
structure SpellsConversation (platform : Whatwg.UrlPlatform) (value : String) (url : Whatwg.Url)
    (segments : List (List Char)) : Prop where
  parsed : Whatwg.parse platform value.toList = some url
  scheme : url.scheme = "https".toList
  host : url.host = some "chatgpt.com".toList
  username : url.username = []
  password : url.password = []
  port : url.port = none
  path : url.path = .segments segments ∨ url.path = .segments (segments ++ [[]])
  kind : ConversationSegments segments
  clean : ∀ s ∈ segments, IsSegment s

theorem ConversationSegments.last {segments : List (List Char)} (h : ConversationSegments segments) :
    ∃ front last, segments = front ++ [last] ∧ last ≠ [] := by
  cases h with
  | unscoped conversation hne => exact ⟨["c".toList], conversation, rfl, hne⟩
  | inProject component conversation _ hne =>
    exact ⟨["g".toList, component, "c".toList], conversation, rfl, hne⟩

theorem ConversationSegments.ne_nil {segments : List (List Char)} (h : ConversationSegments segments) :
    segments ≠ [] := by
  cases h <;> exact List.cons_ne_nil _ _

/-! ## The conversation paths -/

/-- The paths that `createConversationLocator` accepts. -/
def isConversationPath (pathname : String) : Bool :=
  isExistingConversationPath pathname || (projectConversationComponent pathname).isSome

theorem pathSegments_joinPath {segments : List (List Char)} (hne : segments ≠ [])
    (h : ∀ s ∈ segments, IsSegment s) :
    pathSegments (String.ofList (joinPath segments)) = [] :: segments := by
  rw [pathSegments, String.toList_ofList, splitOn_joinPath hne h]

/-- The accepted paths are those of a conversation, with a trailing slash or without. -/
theorem isConversationPath_joinPath {segments : List (List Char)} (h : ∀ s ∈ segments, IsSegment s) :
    isConversationPath (String.ofList (joinPath segments)) = true ↔
      ∃ front, ConversationSegments front ∧ (segments = front ∨ segments = front ++ [[]]) := by
  -- A path without segments is no conversation's.
  by_cases hne : segments = []
  · subst hne
    have hfalse : isConversationPath (String.ofList (joinPath [])) = false := by decide
    constructor
    · intro habsurd
      rw [hfalse] at habsurd
      cases habsurd
    · rintro ⟨front, hfront, habsurd | habsurd⟩
      · exact absurd habsurd.symm hfront.ne_nil
      · exact absurd habsurd (by simp)
  rw [isConversationPath, isExistingConversationPath, projectConversationComponent,
    pathSegments_joinPath hne h]
  constructor
  · intro hpath
    rw [Bool.or_eq_true] at hpath
    -- The path is read as one of no project first, then as one of a project.
    rcases hpath with hpath | hpath
    · split at hpath
      · next conversation heq =>
          cases heq
          exact ⟨_, .unscoped conversation (by simpa using hpath), .inl rfl⟩
      · next conversation heq =>
          cases heq
          exact ⟨_, .unscoped conversation (by simpa using hpath), .inr rfl⟩
      · cases hpath
    · split at hpath
      · next component conversation heq =>
          cases heq
          split at hpath
          · next hscoped =>
              rw [Bool.and_eq_true] at hscoped
              exact ⟨_, .inProject component conversation hscoped.1 (by simpa using hscoped.2), .inl rfl⟩
          · cases hpath
      · next component conversation heq =>
          cases heq
          split at hpath
          · next hscoped =>
              rw [Bool.and_eq_true] at hscoped
              exact ⟨_, .inProject component conversation hscoped.1 (by simpa using hscoped.2), .inr rfl⟩
          · cases hpath
      · cases hpath
  · rintro ⟨front, hfront, rfl | rfl⟩
    · cases hfront with
      | unscoped conversation hconversation => simp [hconversation]
      | inProject component conversation hcomponent hconversation =>
        simp [hcomponent, hconversation]
    · cases hfront with
      | unscoped conversation hconversation => simp [hconversation]
      | inProject component conversation hcomponent hconversation =>
        simp [hcomponent, hconversation]

/-! ## What is accepted, and what is made of it -/

/-- The locator of a conversation. -/
def conversationUrl (segments : List (List Char)) : ConversationLocator :=
  String.ofList (plainUrl "chatgpt.com".toList segments none none).href

/-- The origin of a URL is that of ChatGPT exactly if its host is and it has no port. -/
theorem origin_eq_chatgpt {platform : Whatwg.UrlPlatform} {url : Whatwg.Url}
    (hscheme : url.scheme = "https".toList) :
    url.origin platform = "https://chatgpt.com".toList ↔
      url.host = some "chatgpt.com".toList ∧ url.port = none := by
  have hspecial : (Whatwg.defaultPort url.scheme).isSome = true := by
    rw [hscheme]
    decide
  have hsplit : "https://chatgpt.com".toList =
      "https".toList ++ "://".toList ++ "chatgpt.com".toList := rfl
  rw [Whatwg.Url.origin, if_pos hspecial, hscheme, hsplit, List.append_right_inj,
    ← hostname_eq_chatgpt, Whatwg.Url.hostAndPort]
  cases hport : url.port with
  | none => simp
  | some port =>
    constructor
    · intro habsurd
      have hcolon : ':' ∈ "chatgpt.com".toList := by
        rw [← habsurd]
        exact List.mem_append_right _ List.mem_cons_self
      exact absurd hcolon (by decide)
    · exact fun habsurd => by cases habsurd.2

/-- The checks of `createConversationLocator` accept exactly the spellings of conversation URLs. -/
theorem acceptedConversation_iff {platform : Whatwg.UrlPlatform} {value : String} {url : Whatwg.Url}
    (hparsed : Whatwg.parse platform value.toList = some url) :
    ¬ ((urlParts platform url).protocol ≠ "https:" ∨
        (urlParts platform url).origin ≠ CHATGPT_ORIGIN ∨ (urlParts platform url).username ≠ "" ∨
        (urlParts platform url).password ≠ "" ∨
        (!isExistingConversationPath (urlParts platform url).pathname &&
          (projectConversationComponent (urlParts platform url).pathname).isNone) = true) ↔
      ∃ segments, SpellsConversation platform value url segments := by
  have hprotocol : (urlParts platform url).protocol = "https:" ↔ url.scheme = "https".toList := by
    rw [← protocol_eq_https]
    exact String.ofList_inj
  have horigin : (urlParts platform url).origin = CHATGPT_ORIGIN ↔
      url.origin platform = "https://chatgpt.com".toList := String.ofList_inj
  have husername : (urlParts platform url).username = "" ↔ url.username = [] := String.ofList_inj
  have hpassword : (urlParts platform url).password = "" ↔ url.password = [] := String.ofList_inj
  have hpath : ¬ ((!isExistingConversationPath (urlParts platform url).pathname &&
      (projectConversationComponent (urlParts platform url).pathname).isNone) = true) ↔
        isConversationPath (urlParts platform url).pathname = true := by
    rw [isConversationPath]
    cases isExistingConversationPath (urlParts platform url).pathname <;>
      cases projectConversationComponent (urlParts platform url).pathname <;> simp
  simp only [not_or, ne_eq, not_not, hprotocol, horigin, husername, hpassword, hpath]
  constructor
  · -- The origin gives the host and the port, and the parser has cleaned the segments.
    rintro ⟨hscheme, horigin, husername, hpassword, hpath⟩
    have hspecial : (Whatwg.defaultPort url.scheme).isSome = true := by
      rw [hscheme]
      decide
    obtain ⟨hhost, hport⟩ := (origin_eq_chatgpt hscheme).mp horigin
    obtain ⟨segments, hsegments, hclean⟩ := Whatwg.path_of_parse hparsed hspecial
    have hpathname : (urlParts platform url).pathname = String.ofList (joinPath segments) := by
      rw [urlParts, Whatwg.Url.pathname, hsegments]
      rfl
    rw [hpathname] at hpath
    obtain ⟨front, hkind, hfront⟩ := (isConversationPath_joinPath hclean).mp hpath
    refine ⟨front, hparsed, hscheme, hhost, husername, hpassword, hport, ?_, hkind, ?_⟩
    · rw [hsegments]
      exact hfront.imp (congrArg _) (congrArg _)
    · intro s hs
      rcases hfront with rfl | rfl
      · exact hclean s hs
      · exact hclean s (List.mem_append_left _ hs)
  · rintro ⟨segments, h⟩
    refine ⟨h.scheme, (origin_eq_chatgpt h.scheme).mpr ⟨h.host, h.port⟩, h.username, h.password, ?_⟩
    -- A trailing slash is one empty segment more.
    rcases h.path with hpath | hpath
    · have hpathname : (urlParts platform url).pathname = String.ofList (joinPath segments) := by
        rw [urlParts, Whatwg.Url.pathname, hpath]
        rfl
      rw [hpathname]
      exact (isConversationPath_joinPath h.clean).mpr ⟨segments, h.kind, .inl rfl⟩
    · have hpathname : (urlParts platform url).pathname =
          String.ofList (joinPath (segments ++ [[]])) := by
        rw [urlParts, Whatwg.Url.pathname, hpath]
        rfl
      have hclean : ∀ s ∈ segments ++ [[]], IsSegment s := by
        intro s hs
        rcases List.mem_append.mp hs with hs | hs
        · exact h.clean s hs
        · exact List.mem_singleton.mp hs ▸ Whatwg.isSegment_nil
      rw [hpathname]
      exact (isConversationPath_joinPath hclean).mpr ⟨segments, h.kind, .inr rfl⟩

/-- Without its trailing slash, the path of a conversation is that of its segments. -/
theorem SpellsConversation.pathname {platform : Whatwg.UrlPlatform} {value : String}
    {url : Whatwg.Url} {segments : List (List Char)}
    (h : SpellsConversation platform value url segments) :
    dropTrailingSlash url.pathname = joinPath segments := by
  rw [Whatwg.Url.pathname]
  rcases h.path with hpath | hpath
  · obtain ⟨front, last, hsegments, hne⟩ := h.kind.last
    have hlast : IsSegment last := h.clean last (hsegments ▸ List.mem_append_right _ List.mem_cons_self)
    rw [hpath, hsegments]
    exact dropTrailingSlash_joinPath front hlast hne
  · rw [hpath]
    exact dropTrailingSlash_joinPath_nil segments

/-- What `createConversationLocator` accepts, and what it makes of it. -/
theorem createConversationLocator_eq_ok {platform : Whatwg.UrlPlatform} {value : String}
    {locator : ConversationLocator} :
    createConversationLocator (urlParser platform) value = .ok locator ↔
      ∃ url segments, SpellsConversation platform value url segments ∧
        locator = conversationUrl segments := by
  have hresult : ∀ {url segments}, SpellsConversation platform value url segments →
      CHATGPT_ORIGIN ++ String.ofList (dropTrailingSlash (String.ofList url.pathname).toList) =
        conversationUrl segments := by
    intro url segments h
    have horigin : CHATGPT_ORIGIN = String.ofList ("https://".toList ++ "chatgpt.com".toList) := by
      decide
    rw [String.toList_ofList, h.pathname, horigin, ← String.ofList_append, conversationUrl,
      Whatwg.href_plainUrl]
    simp only [marked, Option.map_none, Option.getD_none, List.append_nil]
  unfold createConversationLocator
  cases hparsed : Whatwg.parse platform value.toList with
  -- What does not parse is refused, and spells nothing.
  | none =>
    rw [urlParser, hparsed]
    constructor
    · intro habsurd
      cases habsurd
    · rintro ⟨url, segments, h, -⟩
      rw [h.parsed] at hparsed
      cases hparsed
  | some url =>
    rw [urlParser, hparsed]
    dsimp only [Option.map_some]
    split
    · next hrefused =>
        constructor
        · intro habsurd
          cases habsurd
        · rintro ⟨other, segments, h, -⟩
          rw [h.parsed] at hparsed
          cases hparsed
          exact absurd hrefused ((acceptedConversation_iff h.parsed).mpr ⟨segments, h⟩)
    · next haccepted =>
        constructor
        · intro hok
          obtain ⟨segments, h⟩ := (acceptedConversation_iff hparsed).mp haccepted
          exact ⟨url, segments, h, (Except.ok.inj hok).symm.trans (hresult h)⟩
        · rintro ⟨other, segments, h, rfl⟩
          rw [h.parsed] at hparsed
          cases hparsed
          exact congrArg Except.ok (hresult h)

/-! ## Locators are read back -/

section Locators

variable {platform : Whatwg.UrlPlatform} {segments : List (List Char)} {component : List Char}
  {query fragment : Option (List Char)}

theorem isPlain_conversation (hkind : ConversationSegments segments)
    (hclean : ∀ s ∈ segments, IsSegment s) :
    Whatwg.IsPlain "chatgpt.com".toList segments none none where
  host := isPlainHost_chatgpt
  path := hkind.ne_nil
  segments := hclean
  query _ h := nomatch h
  fragment _ h := nomatch h

variable (hhost : platform.parseHost "chatgpt.com".toList = some "chatgpt.com".toList)

include hhost

/-- A conversation locator spells itself. -/
theorem spells_conversationUrl (hkind : ConversationSegments segments)
    (hclean : ∀ s ∈ segments, IsSegment s) :
    SpellsConversation platform (conversationUrl segments)
      (plainUrl "chatgpt.com".toList segments none none) segments where
  parsed := by
    rw [conversationUrl, String.toList_ofList]
    exact Whatwg.parse_href platform (isPlain_conversation hkind hclean) hhost
  scheme := rfl
  host := rfl
  username := rfl
  password := rfl
  port := rfl
  path := .inl rfl
  kind := hkind
  clean := hclean

/-- `new URL` of a conversation locator. -/
theorem urlParser_conversationUrl (hkind : ConversationSegments segments)
    (hclean : ∀ s ∈ segments, IsSegment s) :
    ∃ url, urlParser platform (conversationUrl segments) = some url ∧
      url.pathname = String.ofList (joinPath segments) := by
  refine ⟨urlParts platform (plainUrl "chatgpt.com".toList segments none none), ?_, rfl⟩
  rw [urlParser, (spells_conversationUrl hhost hkind hclean).parsed]
  rfl

/-- `new URL` of a project locator. -/
theorem urlParser_locatorOf {value : String} {project : Whatwg.Url}
    (h : Spells platform value project component) :
    ∃ url, urlParser platform (locatorOf project component) = some url ∧
      url.pathname = String.ofList (joinPath (projectSegments component)) := by
  refine ⟨urlParts platform (plainUrl "chatgpt.com".toList (projectSegments component) project.query
    project.fragment), ?_, rfl⟩
  rw [urlParser, locatorOf, String.toList_ofList,
    Whatwg.parse_href platform (isPlain_project h.canonical h.query h.fragment) hhost]
  rfl

end Locators

/-! ## Components and slugs -/

theorem isProjectComponent_of_canonical {component : List Char}
    (h : isCanonicalProjectComponent component = true) : isProjectComponent component = true := by
  obtain ⟨digits, rfl, hlength, hdigits⟩ := isCanonicalProjectComponent_iff.mp h
  have hne : digits ≠ [] := List.ne_nil_of_length_pos (by omega)
  have hall : digits.all isOpaqueIdChar = true :=
    List.all_eq_true.mpr fun c hc =>
      isOpaqueIdChar_of_isLowerHex (List.all_eq_true.mp hdigits c hc)
  simp [isProjectComponent, hne, hall]

/-- A dash and dash-separated groups of lower-case letters and digits. -/
def IsSlug (suffix : List Char) : Prop :=
  ∃ groups : List (List Char), groups ≠ [] ∧
    (∀ group ∈ groups, group ≠ [] ∧ ∀ c ∈ group, isLowerAlphanumeric c = true) ∧
    suffix = '-' :: ['-'].intercalate groups

theorem isProjectConversationSuffix_iff {suffix : List Char} :
    isProjectConversationSuffix suffix = true ↔ IsSlug suffix := by
  unfold isProjectConversationSuffix
  split
  · next rest =>
      rw [List.all_eq_true]
      constructor
      · intro hall
        refine ⟨rest.splitOn '-', List.splitOn_ne_nil _ _, fun group hgroup => ?_, ?_⟩
        · simpa using hall group hgroup
        · rw [List.intercalate_splitOn]
      · rintro ⟨groups, hne, hgroups, hrest⟩
        have hdash : ∀ group ∈ groups, '-' ∉ group := by
          intro group hgroup habsurd
          exact absurd ((hgroups group hgroup).2 '-' habsurd) (by decide)
        rw [List.cons_inj_right] at hrest
        rw [hrest, List.splitOn_intercalate '-' hdash hne]
        intro group hgroup
        simpa using hgroups group hgroup
  · next hno =>
      constructor
      · exact fun habsurd => nomatch habsurd
      · rintro ⟨groups, -, -, rfl⟩
        exact absurd rfl (hno _)

/-- A segment names a project: it is the project's component, or that with a slug. -/
def Names (segment component : List Char) : Prop :=
  segment = component ∨ ∃ slug, IsSlug slug ∧ segment = component ++ slug

/-- The decision of `conversationBelongsToProject` on a segment. -/
theorem names_iff {segment component : List Char}
    (h : isCanonicalProjectComponent component = true) :
    (segment == component || (isCanonicalProjectComponent component &&
      component.isPrefixOf segment &&
      isProjectConversationSuffix (segment.drop component.length))) = true ↔
      Names segment component := by
  rw [h, Bool.true_and, Bool.or_eq_true, Bool.and_eq_true, beq_iff_eq, List.isPrefixOf_iff_prefix,
    isProjectConversationSuffix_iff, Names]
  refine or_congr_right ⟨?_, ?_⟩
  · rintro ⟨⟨slug, rfl⟩, hslug⟩
    rw [List.drop_left] at hslug
    exact ⟨slug, hslug, rfl⟩
  · rintro ⟨slug, hslug, rfl⟩
    rw [List.drop_left]
    exact ⟨List.prefix_append component slug, hslug⟩

/-- A segment names one project at most. -/
theorem Names.unique {segment component component' : List Char} (h : Names segment component)
    (h' : Names segment component') (hcanonical : isCanonicalProjectComponent component = true)
    (hcanonical' : isCanonicalProjectComponent component' = true) : component = component' := by
  have htake : ∀ {c}, Names segment c → isCanonicalProjectComponent c = true →
      segment.take 36 = c := by
    rintro c (rfl | ⟨slug, -, rfl⟩) hc
    · exact List.take_of_length_le (Nat.le_of_eq (length_of_canonical hc))
    · exact List.take_left' (length_of_canonical hc)
  exact (htake h hcanonical).symm.trans (htake h' hcanonical')

/-! ## Ownership -/

section Ownership

variable {platform : Whatwg.UrlPlatform} {segments : List (List Char)} {component : List Char}

/-- A conversation outside projects belongs to no project. -/
theorem projectConversationComponent_unscoped {conversation : List Char}
    (hclean : ∀ s ∈ ["c".toList, conversation], IsSegment s) (hne : conversation ≠ []) :
    isExistingConversationPath (String.ofList (joinPath ["c".toList, conversation])) = true ∧
      projectConversationComponent (String.ofList (joinPath ["c".toList, conversation])) = none := by
  rw [isExistingConversationPath, projectConversationComponent,
    pathSegments_joinPath (List.cons_ne_nil _ _) hclean]
  simp [hne]

theorem projectConversationComponent_inProject {segment conversation : List Char}
    (hclean : ∀ s ∈ ["g".toList, segment, "c".toList, conversation], IsSegment s)
    (hsegment : isProjectComponent segment = true) (hne : conversation ≠ []) :
    isExistingConversationPath
        (String.ofList (joinPath ["g".toList, segment, "c".toList, conversation])) = false ∧
      projectConversationComponent
        (String.ofList (joinPath ["g".toList, segment, "c".toList, conversation])) =
          some segment := by
  rw [isExistingConversationPath, projectConversationComponent,
    pathSegments_joinPath (List.cons_ne_nil _ _) hclean]
  simp [hsegment, hne]

theorem projectPathComponent_project (h : isCanonicalProjectComponent component = true) :
    projectPathComponent (String.ofList (joinPath (projectSegments component))) = some component := by
  have hne : projectSegments component ≠ [] := List.cons_ne_nil _ _
  rw [projectPathComponent, pathSegments_joinPath hne (isSegment_project h)]
  simp [projectSegments, isProjectComponent_of_canonical h]

variable (hhost : platform.parseHost "chatgpt.com".toList = some "chatgpt.com".toList)

include hhost

/-- A conversation belongs to the projects that its project segment names. -/
theorem conversationBelongsToProject_iff {value : String} {project : Whatwg.Url}
    (hkind : ConversationSegments segments) (hclean : ∀ s ∈ segments, IsSegment s)
    (hproject : Spells platform value project component) :
    ∃ owned, conversationBelongsToProject (urlParser platform) (conversationUrl segments)
        (locatorOf project component) = .ok owned ∧
      (owned = true ↔ ∃ segment conversation,
        segments = ["g".toList, segment, "c".toList, conversation] ∧ Names segment component) := by
  obtain ⟨url, hurl, hpathname⟩ := urlParser_conversationUrl hhost hkind hclean
  obtain ⟨projectUrl, hprojectUrl, hprojectPath⟩ := urlParser_locatorOf hhost hproject
  rw [conversationBelongsToProject, hurl, hprojectUrl]
  dsimp only
  rw [hpathname, hprojectPath, projectPathComponent_project hproject.canonical]
  cases hkind with
  | unscoped conversation hne =>
    rw [(projectConversationComponent_unscoped hclean hne).2]
    refine ⟨false, rfl, ?_⟩
    constructor
    · intro habsurd
      cases habsurd
    · rintro ⟨segment, other, habsurd, -⟩
      cases habsurd
  | inProject segment conversation hsegment hne =>
    rw [(projectConversationComponent_inProject hclean hsegment hne).2]
    refine ⟨_, rfl, (names_iff hproject.canonical).trans ?_⟩
    constructor
    · exact fun hnames => ⟨segment, conversation, rfl, hnames⟩
    · rintro ⟨other, otherConversation, heq, hnames⟩
      cases heq
      exact hnames

/-- A conversation locator is unscoped exactly if it is not that of a conversation in a project. -/
theorem isUnscopedConversationLocator_inProject {segment conversation : List Char}
    (hkind : ConversationSegments ["g".toList, segment, "c".toList, conversation])
    (hclean : ∀ s ∈ ["g".toList, segment, "c".toList, conversation], IsSegment s) :
    isUnscopedConversationLocator (urlParser platform)
      (conversationUrl ["g".toList, segment, "c".toList, conversation]) = .ok false := by
  obtain ⟨url, hurl, hpathname⟩ := urlParser_conversationUrl hhost hkind hclean
  rw [isUnscopedConversationLocator, hurl]
  dsimp only
  rw [hpathname]
  cases hkind with
  | inProject _ _ hsegment hne =>
    rw [(projectConversationComponent_inProject hclean hsegment hne).1]

end Ownership

/-- The segments of a conversation in a project, read off its locator. -/
theorem conversationUrl_eq_iff {segments : List (List Char)} {segment conversation : List Char}
    (hkind : ConversationSegments segments) (hclean : ∀ s ∈ segments, IsSegment s)
    (hsegment : '/' ∉ segment) (hconversation : '/' ∉ conversation) :
    conversationUrl segments = String.ofList ("https://chatgpt.com/g/".toList ++ segment ++
        "/c/".toList ++ conversation) ↔
      segments = ["g".toList, segment, "c".toList, conversation] := by
  have hsplit : ("https://chatgpt.com/g/".toList ++ segment ++ "/c/".toList ++ conversation) =
      "https://".toList ++ "chatgpt.com".toList ++
        joinPath ["g".toList, segment, "c".toList, conversation] := by
    simp [joinPath]
  rw [conversationUrl, String.ofList_inj, Whatwg.href_plainUrl, hsplit, List.append_right_inj]
  simp only [marked, Option.map_none, Option.getD_none, List.append_nil]
  refine ⟨fun heq => ?_, fun heq => by rw [heq]⟩
  have hslash : ∀ s ∈ ["g".toList, segment, "c".toList, conversation], ∀ c ∈ s, (c == '/') = false := by
    intro s hs c hc
    refine beq_eq_false_iff_ne.mpr fun habsurd => ?_
    rw [habsurd] at hc
    simp only [List.mem_cons, List.not_mem_nil, or_false] at hs
    rcases hs with rfl | rfl | rfl | rfl
    · exact absurd hc (by decide)
    · exact hsegment hc
    · exact absurd hc (by decide)
    · exact hconversation hc
  have hright := Whatwg.splitOnP_joinPath rfl (List.cons_ne_nil _ _) hslash
  have hleft := splitOn_joinPath hkind.ne_nil hclean
  rw [heq, List.splitOn_eq_splitOnP, hright] at hleft
  exact (List.cons.inj hleft).2.symm

/-! ## The law of ownership -/

/-- What conversation locators are and to which projects they belong. `Spells` names the component of
a project locator. -/
structure ConversationOwnershipLaw (platform : Whatwg.UrlPlatform) : Prop where
  ownership : ∀ value locator value' url component project,
    createConversationLocator (urlParser platform) value = .ok locator →
    Spells platform value' url component → createProjectLocator platform value' = .ok project →
    ∃ owned, conversationBelongsToProject (urlParser platform) locator project = .ok owned ∧
      (owned = true ↔ ∃ segment conversation,
        locator = String.ofList ("https://chatgpt.com/g/".toList ++ segment ++ "/c/".toList ++
          conversation) ∧ '/' ∉ segment ∧ '/' ∉ conversation ∧ Names segment component)
  unique : ∀ value locator value₁ url₁ component₁ project₁ value₂ url₂ component₂ project₂,
    createConversationLocator (urlParser platform) value = .ok locator →
    Spells platform value₁ url₁ component₁ → createProjectLocator platform value₁ = .ok project₁ →
    Spells platform value₂ url₂ component₂ → createProjectLocator platform value₂ = .ok project₂ →
    conversationBelongsToProject (urlParser platform) locator project₁ = .ok true →
    conversationBelongsToProject (urlParser platform) locator project₂ = .ok true →
    component₁ = component₂
  not_unscoped : ∀ value locator value' project,
    createConversationLocator (urlParser platform) value = .ok locator →
    createProjectLocator platform value' = .ok project →
    conversationBelongsToProject (urlParser platform) locator project = .ok true →
    isUnscopedConversationLocator (urlParser platform) locator = .ok false
  idempotent : ∀ value locator, createConversationLocator (urlParser platform) value = .ok locator →
    createConversationLocator (urlParser platform) locator = .ok locator
  path_only : ∀ value url locator value' url' locator',
    Whatwg.parse platform value.toList = some url →
    Whatwg.parse platform value'.toList = some url' →
    createConversationLocator (urlParser platform) value = .ok locator →
    createConversationLocator (urlParser platform) value' = .ok locator' →
    (locator = locator' ↔ dropTrailingSlash url.pathname = dropTrailingSlash url'.pathname)
  query_and_fragment : ∀ value url value' url',
    Whatwg.parse platform value.toList = some url →
    Whatwg.parse platform value'.toList = some url' →
    { url with query := none, fragment := none } = { url' with query := none, fragment := none } →
    createConversationLocator (urlParser platform) value =
      createConversationLocator (urlParser platform) value'

/-- The spellings of a conversation are known up to query, fragment and a trailing slash. -/
theorem SpellsConversation.congr {platform : Whatwg.UrlPlatform} {value value' : String}
    {url url' : Whatwg.Url} {segments : List (List Char)}
    (h : SpellsConversation platform value url segments)
    (hparsed : Whatwg.parse platform value'.toList = some url')
    (hsame : { url with query := none, fragment := none } =
      { url' with query := none, fragment := none }) :
    SpellsConversation platform value' url' segments := by
  injection hsame with hscheme husername hpassword hhost hport hpath
  exact {
    parsed := hparsed
    scheme := hscheme ▸ h.scheme
    host := hhost ▸ h.host
    username := husername ▸ h.username
    password := hpassword ▸ h.password
    port := hport ▸ h.port
    path := hpath ▸ h.path
    kind := h.kind
    clean := h.clean }

/-- A URL that is none of a conversation is refused. -/
theorem createConversationLocator_refused {platform : Whatwg.UrlPlatform} {value : String}
    {url : Whatwg.Url} (hparsed : Whatwg.parse platform value.toList = some url)
    (hno : ¬ ∃ segments, SpellsConversation platform value url segments) :
    createConversationLocator (urlParser platform) value =
      .error (.ofCode .conversationLocatorInvalid) := by
  rw [createConversationLocator, urlParser, hparsed]
  dsimp only [Option.map_some]
  rw [if_pos (not_not.mp fun haccepted => hno ((acceptedConversation_iff hparsed).mp haccepted))]

/-- The locator of the segments determines them. -/
theorem conversationUrl_inj {segments segments' : List (List Char)} :
    conversationUrl segments = conversationUrl segments' ↔ joinPath segments = joinPath segments' := by
  rw [conversationUrl, conversationUrl, String.ofList_inj, Whatwg.href_plainUrl, Whatwg.href_plainUrl,
    List.append_right_inj, List.append_left_inj, List.append_left_inj]

theorem not_slash_of_isSegment {segment : List Char} (h : IsSegment segment) : '/' ∉ segment :=
  fun habsurd => absurd (h.clean '/' habsurd).2 (by decide)

/-- The law of ownership, where the host parser leaves the host of ChatGPT as it is. -/
theorem conversation_ownership (platform : Whatwg.UrlPlatform)
    (hhost : platform.parseHost "chatgpt.com".toList = some "chatgpt.com".toList) :
    ConversationOwnershipLaw platform := by
  -- What both constructors accept comes down to the segments of the path and the canonical
  -- component.
  have hbelongs : ∀ {value locator value' url component project},
      createConversationLocator (urlParser platform) value = .ok locator →
      Spells platform value' url component → createProjectLocator platform value' = .ok project →
      ∃ segments, ConversationSegments segments ∧ (∀ s ∈ segments, IsSegment s) ∧
        locator = conversationUrl segments ∧
        ∃ owned, conversationBelongsToProject (urlParser platform) locator project = .ok owned ∧
          (owned = true ↔ ∃ segment conversation,
            segments = ["g".toList, segment, "c".toList, conversation] ∧ Names segment component) := by
    intro value locator value' url component project hlocator hspells hproject
    obtain ⟨_, segments, hsegments, rfl⟩ := createConversationLocator_eq_ok.mp hlocator
    rw [createProjectLocator_eq_ok.mpr ⟨url, component, hspells, rfl⟩] at hproject
    cases hproject
    exact ⟨segments, hsegments.kind, hsegments.clean, rfl,
      conversationBelongsToProject_iff hhost hsegments.kind hsegments.clean hspells⟩
  constructor
  case ownership =>
    intro value locator value' url component project hlocator hspells hproject
    obtain ⟨segments, hkind, hclean, rfl, owned, howned, hiff⟩ := hbelongs hlocator hspells hproject
    refine ⟨owned, howned, hiff.trans ?_⟩
    -- The path of a URL in its normal form determines its segments.
    constructor
    · rintro ⟨segment, conversation, rfl, hnames⟩
      have hsegment := not_slash_of_isSegment (hclean segment (by simp))
      have hconversation := not_slash_of_isSegment (hclean conversation (by simp))
      exact ⟨segment, conversation,
        (conversationUrl_eq_iff hkind hclean hsegment hconversation).mpr rfl, hsegment, hconversation,
        hnames⟩
    · rintro ⟨segment, conversation, heq, hsegment, hconversation, hnames⟩
      exact ⟨segment, conversation,
        (conversationUrl_eq_iff hkind hclean hsegment hconversation).mp heq, hnames⟩
  case unique =>
    intro value locator value₁ url₁ component₁ project₁ value₂ url₂ component₂ project₂ hlocator
      hspells₁ hproject₁ hspells₂ hproject₂ howned₁ howned₂
    obtain ⟨segments, hkind, hclean, rfl, owned, howned, hiff₁⟩ := hbelongs hlocator hspells₁ hproject₁
    rw [howned₁] at howned
    cases howned
    obtain ⟨segment, conversation, rfl, hnames₁⟩ := hiff₁.mp rfl
    obtain ⟨other, -, hother, heq, owned, howned, hiff₂⟩ := hbelongs hlocator hspells₂ hproject₂
    rw [howned₂] at howned
    cases howned
    obtain ⟨segment₂, conversation₂, rfl, hnames₂⟩ := hiff₂.mp rfl
    have hsegment₂ := not_slash_of_isSegment (hother segment₂ (by simp))
    have hconversation₂ := not_slash_of_isSegment (hother conversation₂ (by simp))
    -- The locator is one, so both projects name the component of the same segment.
    have hsame := conversationUrl_inj.mp heq
    have hsegments : ["g".toList, segment, "c".toList, conversation] =
        ["g".toList, segment₂, "c".toList, conversation₂] := by
      have hsplit := splitOn_joinPath hkind.ne_nil hclean
      rw [hsame, splitOn_joinPath (List.cons_ne_nil _ _) hother] at hsplit
      exact (List.cons.inj hsplit).2.symm
    cases hsegments
    exact hnames₁.unique hnames₂ hspells₁.canonical hspells₂.canonical
  case not_unscoped =>
    intro value locator value' project hlocator hproject howned
    obtain ⟨url, component, hspells, rfl⟩ := createProjectLocator_eq_ok.mp hproject
    obtain ⟨segments, hkind, hclean, rfl, owned, howned', hiff⟩ := hbelongs hlocator hspells hproject
    rw [howned] at howned'
    cases howned'
    obtain ⟨segment, conversation, rfl, -⟩ := hiff.mp rfl
    exact isUnscopedConversationLocator_inProject hhost hkind hclean
  case idempotent =>
    intro value locator hlocator
    obtain ⟨_, segments, hsegments, rfl⟩ := createConversationLocator_eq_ok.mp hlocator
    have hself := spells_conversationUrl hhost hsegments.kind hsegments.clean
    exact createConversationLocator_eq_ok.mpr ⟨_, segments, hself, rfl⟩
  case path_only =>
    intro value url locator value' url' locator' hparsed hparsed' hlocator hlocator'
    obtain ⟨other, segments, hsegments, rfl⟩ := createConversationLocator_eq_ok.mp hlocator
    obtain ⟨other', segments', hsegments', rfl⟩ := createConversationLocator_eq_ok.mp hlocator'
    rw [hsegments.parsed] at hparsed
    rw [hsegments'.parsed] at hparsed'
    cases hparsed
    cases hparsed'
    rw [hsegments.pathname, hsegments'.pathname]
    exact conversationUrl_inj
  case query_and_fragment =>
    intro value url value' url' hparsed hparsed' hsame
    -- The constructor reads neither the query nor the fragment, so it makes the same of both.
    by_cases hspells : ∃ segments, SpellsConversation platform value url segments
    · obtain ⟨segments, hsegments⟩ := hspells
      rw [createConversationLocator_eq_ok.mpr ⟨url, segments, hsegments, rfl⟩]
      exact (createConversationLocator_eq_ok.mpr
        ⟨url', segments, hsegments.congr hparsed' hsame, rfl⟩).symm
    · rw [createConversationLocator_refused hparsed hspells, createConversationLocator_refused hparsed']
      rintro ⟨segments, hsegments⟩
      exact hspells ⟨segments, hsegments.congr hparsed hsame.symm⟩

/-- A host parser that puts hosts in lower case; its law, and a conversation of a project with a slug
under it. -/
theorem conversation_ownership_lowerCase :
    let platform : Whatwg.UrlPlatform :=
      ⟨fun host => some (host.map Char.toLower), fun _ _ => none, fun _ => []⟩
    ConversationOwnershipLaw platform ∧
      createConversationLocator (urlParser platform)
          "https://ChatGPT.com/g/g-p-00000000000000000000000000000030-a-b/c/d/?x#y" =
        .ok "https://chatgpt.com/g/g-p-00000000000000000000000000000030-a-b/c/d" ∧
      conversationBelongsToProject (urlParser platform)
          "https://chatgpt.com/g/g-p-00000000000000000000000000000030-a-b/c/d"
          "https://chatgpt.com/g/g-p-00000000000000000000000000000030/project" = .ok true :=
  ⟨conversation_ownership _ (by decide), by decide +kernel, by decide +kernel⟩

end Threadwire
