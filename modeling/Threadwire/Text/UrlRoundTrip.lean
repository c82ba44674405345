import Threadwire.Text.WhatwgUrl

/-!
# Parsing what was serialized

The parser leaves a path, a query and a fragment in a form in which nothing is left to encode, and
in this form they are read back as they are.
-/

namespace Whatwg

/-! ## Percent-encoded text -/

/-- The digits of an escape are left alone by the encoder. -/
theorem hexDigit_clean : ∀ n < 16, pathSet (hexDigit n) = false ∧ isSlash (hexDigit n) = false := by
  decide

/-- And so is its mark. -/
theorem pathSet_percent : pathSet '%' = false ∧ isSlash '%' = false := by decide

/-- The characters of an encoded byte are none of those that a path encodes or is split at. -/
theorem percentEncode_clean (c : Char) :
    ∀ d ∈ percentEncode c, pathSet d = false ∧ isSlash d = false := by
  intro d hd
  obtain ⟨byte, -, hd⟩ := List.mem_flatMap.mp hd
  have hbyte : byte.toNat < 256 := byte.toNat_lt
  rcases List.mem_cons.mp hd with rfl | hd
  · exact pathSet_percent
  rcases List.mem_cons.mp hd with rfl | hd
  · exact hexDigit_clean _ (by omega)
  · rw [List.mem_singleton.mp hd]
    exact hexDigit_clean _ (Nat.mod_lt _ (by decide))

/-- What is encoded has nothing left to encode. -/
theorem encode_clean {text : List Char} (htext : ∀ c ∈ text, isSlash c = false) :
    ∀ d ∈ encode pathSet text, pathSet d = false ∧ isSlash d = false := by
  intro d hd
  obtain ⟨c, hc, hd⟩ := List.mem_flatMap.mp hd
  split at hd
  · exact percentEncode_clean c d hd
  · next hset =>
      rw [List.mem_singleton.mp hd]
      exact ⟨Bool.eq_false_iff.mpr hset, htext c hc⟩

/-- Text with nothing to encode is left as it is. -/
theorem encode_of_clean {set : Char → Bool} {text : List Char} (h : ∀ c ∈ text, set c = false) :
    encode set text = text := by
  induction text with
  | nil => rfl
  | cons c text ih =>
    have hc : set c = false := h c List.mem_cons_self
    have hrest := ih fun d hd => h d (List.mem_cons_of_mem c hd)
    rw [encode, List.flatMap_cons, hc]
    exact congrArg (c :: ·) hrest

/-! ## Paths -/

/-- A path segment as the parser leaves it. -/
structure IsSegment (segment : List Char) : Prop where
  clean : ∀ c ∈ segment, pathSet c = false ∧ isSlash c = false
  notSingleDot : isSingleDot segment = false
  notDoubleDot : isDoubleDot segment = false

/-- The empty segment. -/
theorem isSegment_nil : IsSegment [] := ⟨fun _ h => absurd h List.not_mem_nil, by decide, by decide⟩

/-- A literal segment is checked by running the parser's own tests on it. -/
theorem isSegment_of_check {segment : List Char}
    (hclean : segment.all (fun c => !pathSet c && !isSlash c) = true)
    (hdots : (!isSingleDot segment && !isDoubleDot segment) = true) : IsSegment segment := by
  rw [Bool.and_eq_true, Bool.not_eq_true', Bool.not_eq_true'] at hdots
  refine ⟨fun c hc => ?_, hdots.1, hdots.2⟩
  simpa using List.all_eq_true.mp hclean c hc

/-- A segment of the parser is encoded already. -/
theorem IsSegment.encode_eq {segment : List Char} (h : IsSegment segment) :
    encode pathSet segment = segment :=
  encode_of_clean fun c hc => (h.clean c hc).1

/-- Ending a segment keeps the segments before it, and adds nothing but segments. -/
theorem pushSegment_isSegment {path : List (List Char)} {segment : List Char} {last : Bool}
    (hpath : ∀ s ∈ path, IsSegment s) (hclean : ∀ c ∈ segment, pathSet c = false ∧ isSlash c = false) :
    ∀ s ∈ pushSegment path segment last, IsSegment s := by
  have hempty : ∀ {front : List (List Char)}, (∀ s ∈ front, IsSegment s) →
      ∀ s ∈ front ++ [[]], IsSegment s := by
    intro front hfront s hs
    rcases List.mem_append.mp hs with hs | hs
    · exact hfront s hs
    · exact List.mem_singleton.mp hs ▸ isSegment_nil
  have hshort : ∀ s ∈ path.dropLast, IsSegment s := fun s hs => hpath s (List.dropLast_subset path hs)
  unfold pushSegment
  split
  · split
    · exact hempty hshort
    · exact hshort
  · next hdouble =>
      split
      · split
        · exact hempty hpath
        · exact hpath
      · next hsingle =>
          intro s hs
          rcases List.mem_append.mp hs with hs | hs
          · exact hpath s hs
          · rw [List.mem_singleton.mp hs]
            exact ⟨hclean, Bool.eq_false_iff.mpr hsingle, Bool.eq_false_iff.mpr hdouble⟩

/-- The parser leaves only such segments. -/
theorem pushSegments_isSegment {segments : List (List Char)} {path : List (List Char)}
    (hpath : ∀ s ∈ path, IsSegment s) (hslash : ∀ s ∈ segments, ∀ c ∈ s, isSlash c = false) :
    ∀ s ∈ pushSegments path segments, IsSegment s := by
  induction segments generalizing path with
  | nil => exact hpath
  | cons segment segments ih =>
    have hfirst : ∀ last, ∀ s ∈ pushSegment path (encode pathSet segment) last, IsSegment s :=
      fun _ => pushSegment_isSegment hpath (encode_clean (hslash segment List.mem_cons_self))
    cases segments with
    | nil => exact hfirst true
    | cons next segments =>
      exact ih (hfirst false) fun s hs => hslash s (List.mem_cons_of_mem segment hs)

/-- A piece has no separator in it. -/
theorem mem_splitOnP {α : Type} {p : α → Bool} {l : List α} :
    ∀ piece ∈ l.splitOnP p, ∀ a ∈ piece, p a = false := by
  induction l with
  | nil =>
    intro piece hpiece a ha
    rw [List.splitOnP_nil, List.mem_singleton] at hpiece
    rw [hpiece] at ha
    exact absurd ha List.not_mem_nil
  | cons b l ih =>
    intro piece hpiece a ha
    rw [List.splitOnP_cons_eq_if_modifyHead] at hpiece
    split at hpiece
    · rcases List.mem_cons.mp hpiece with rfl | hpiece
      · exact absurd ha List.not_mem_nil
      · exact ih piece hpiece a ha
    · next hb =>
        obtain ⟨first, rest, hsplit⟩ := List.exists_cons_of_ne_nil (List.splitOnP_ne_nil p l)
        rw [hsplit] at hpiece ih
        rcases List.mem_cons.mp hpiece with rfl | hpiece
        · rcases List.mem_cons.mp ha with rfl | ha
          · exact Bool.eq_false_iff.mpr hb
          · exact ih first List.mem_cons_self a ha
        · exact ih piece (List.mem_cons_of_mem first hpiece) a ha

/-- A path that was parsed consists of segments. -/
theorem parsePath_isSegment (input : List Char) : ∀ s ∈ parsePath input, IsSegment s :=
  pushSegments_isSegment (fun _ h => absurd h List.not_mem_nil) mem_splitOnP

/-- The serialized path. -/
def joinPath (segments : List (List Char)) : List Char := segments.flatMap fun segment => '/' :: segment

/-- Two lots of segments. -/
theorem joinPath_append (front back : List (List Char)) :
    joinPath (front ++ back) = joinPath front ++ joinPath back :=
  List.flatMap_append

/-- A segment that is too long to be a dot segment. -/
theorem isSegment_of_length {segment : List Char}
    (hclean : ∀ c ∈ segment, pathSet c = false ∧ isSlash c = false) (hlength : 6 < segment.length) :
    IsSegment segment := by
  have hne : ∀ dots : List Char, dots.length ≤ 6 → (segment.map Char.toLower == dots) = false := by
    intro dots hdots
    refine beq_eq_false_iff_ne.mpr fun habsurd => ?_
    rw [← habsurd, List.length_map] at hdots
    omega
  refine ⟨hclean, ?_, ?_⟩
  · simp [isSingleDot, hne]
  · simp [isDoubleDot, hne]

/-- A serialized path is split into its segments again, by any separators that are not in them. -/
theorem splitOnP_append_joinPath {p : Char → Bool} (hp : p '/' = true) {segment : List Char}
    {segments : List (List Char)} (hclean : ∀ s ∈ segment :: segments, ∀ c ∈ s, p c = false) :
    (segment ++ joinPath segments).splitOnP p = segment :: segments := by
  induction segments generalizing segment with
  | nil =>
    rw [joinPath, List.flatMap_nil, List.append_nil]
    exact List.splitOnP_eq_singleton (hclean segment List.mem_cons_self)
  | cons next segments ih =>
    have hrest := ih fun s hs => hclean s (List.mem_cons_of_mem segment hs)
    rw [joinPath, List.flatMap_cons, List.cons_append, List.splitOnP_append_cons_of_forall_mem
      (hclean segment List.mem_cons_self) '/' hp]
    exact congrArg (segment :: ·) hrest

/-- A serialized path is split into its segments. -/
theorem splitOnP_joinPath {p : Char → Bool} (hp : p '/' = true) {segments : List (List Char)}
    (hne : segments ≠ []) (hclean : ∀ s ∈ segments, ∀ c ∈ s, p c = false) :
    (joinPath segments).splitOnP p = [] :: segments := by
  obtain ⟨segment, rest, rfl⟩ := List.exists_cons_of_ne_nil hne
  have hcons : joinPath (segment :: rest) = '/' :: (segment ++ joinPath rest) := by
    rw [joinPath, List.flatMap_cons, List.cons_append]
    rfl
  rw [hcons, List.splitOnP_cons_eq_if_modifyHead, if_pos hp, splitOnP_append_joinPath hp hclean]

/-- Segments are pushed as they are. -/
theorem pushSegments_of_isSegment {segments : List (List Char)} (path : List (List Char))
    (h : ∀ s ∈ segments, IsSegment s) : pushSegments path segments = path ++ segments := by
  have hpush : ∀ {segment} (path : List (List Char)) (last : Bool), IsSegment segment →
      pushSegment path (encode pathSet segment) last = path ++ [segment] := by
    intro segment path last hsegment
    rw [hsegment.encode_eq, pushSegment, hsegment.notDoubleDot, hsegment.notSingleDot]
    rfl
  induction segments generalizing path with
  | nil => exact (List.append_nil path).symm
  | cons segment segments ih =>
    have hsegment := h segment List.mem_cons_self
    cases segments with
    | nil => exact hpush path true hsegment
    | cons next segments =>
      have hrest := ih (path ++ [segment]) fun s hs => h s (List.mem_cons_of_mem segment hs)
      rw [pushSegments, hpush path false hsegment, hrest, List.append_assoc]
      · rfl
      · exact List.cons_ne_nil next segments

/-- A serialized path is parsed to its segments. -/
theorem parsePath_joinPath {segments : List (List Char)} (hne : segments ≠ [])
    (h : ∀ s ∈ segments, IsSegment s) : parsePath (joinPath segments) = segments := by
  obtain ⟨segment, rest, rfl⟩ := List.exists_cons_of_ne_nil hne
  have hsplit : (segment ++ joinPath rest).splitOnP isSlash = segment :: rest :=
    splitOnP_append_joinPath rfl fun s hs c hc => ((h s hs).clean c hc).2
  have hcons : joinPath (segment :: rest) = '/' :: (segment ++ joinPath rest) := by
    rw [joinPath, List.flatMap_cons, List.cons_append]
    rfl
  rw [hcons]
  change pushSegments [] ((segment ++ joinPath rest).splitOnP isSlash) = _
  rw [hsplit, pushSegments_of_isSegment [] h, List.nil_append]

/-! ## URLs with a plain authority -/

/-- A character that the parser neither strips nor removes. -/
def isVisible (c : Char) : Bool := !controlSet c && c != ' '

/-- A visible character is not stripped. -/
theorem not_controlOrSpace_of_isVisible {c : Char} (h : isVisible c = true) :
    isControlOrSpace c = false ∧ isTabOrNewline c = false := by
  simp only [isVisible, controlSet, Bool.and_eq_true, Bool.not_eq_true', Bool.or_eq_false_iff,
    decide_eq_false_iff_not, bne_iff_ne, ne_eq] at h
  obtain ⟨⟨hlow, -⟩, hspace⟩ := h
  have hval : c.val ≠ 0x20 := fun habsurd => hspace (Char.ext habsurd)
  constructor
  · simp only [isControlOrSpace, decide_eq_false_iff_not]
    intro hle
    exact hval (UInt32.le_antisymm hle (UInt32.not_lt.mp hlow))
  · refine Bool.eq_false_iff.mpr fun htab => ?_
    have hcases : c = '\t' ∨ c = '\n' ∨ c = '\r' := by
      simpa [isTabOrNewline, or_assoc] using htab
    rcases hcases with rfl | rfl | rfl <;> exact absurd hlow (by decide)

/-- What the path leaves alone is visible. -/
theorem isVisible_of_pathSet {c : Char} (h : pathSet c = false) : isVisible c = true := by
  simp only [pathSet, querySet, Bool.or_eq_false_iff] at h
  have hspace : c ≠ ' ' := fun habsurd => by simp [habsurd] at h
  simp [isVisible, h.1.1, hspace]

/-- So is a whole path. -/
theorem isVisible_joinPath {segments : List (List Char)} (h : ∀ s ∈ segments, IsSegment s) :
    ∀ c ∈ joinPath segments, isVisible c = true := by
  intro c hc
  obtain ⟨s, hs, hc⟩ := List.mem_flatMap.mp hc
  rcases List.mem_cons.mp hc with rfl | hc
  · decide
  · exact isVisible_of_pathSet ((h s hs).clean c hc).1

/-- Nothing is dropped where nothing is to be. -/
theorem dropWhile_eq_self {α : Type} {p : α → Bool} {l : List α} (h : ∀ a ∈ l, p a = false) :
    l.dropWhile p = l := by
  cases l with
  | nil => rfl
  | cons a l => rw [List.dropWhile_cons_of_neg (by simp [h a List.mem_cons_self])]

/-- Of a text without invisible characters the parser ignores none. -/
theorem preprocess_eq_self {input : List Char} (h : ∀ c ∈ input, isVisible c = true) :
    preprocess input = input := by
  have hcontrol := fun c hc => (not_controlOrSpace_of_isVisible (h c hc)).1
  rw [preprocess, dropWhile_eq_self hcontrol,
    dropWhile_eq_self fun c hc => hcontrol c (List.mem_reverse.mp hc), List.reverse_reverse]
  refine List.filter_eq_self.mpr fun c hc => ?_
  rw [(not_controlOrSpace_of_isVisible (h c hc)).2]
  rfl

/-- A prefix in which the predicate holds, up to where it does not. -/
theorem span_append {α : Type} {p : α → Bool} {l rest : List α} (hl : ∀ a ∈ l, p a = true)
    (hrest : ∀ a ∈ rest.head?, p a = false) :
    (l ++ rest).takeWhile p = l ∧ (l ++ rest).dropWhile p = rest := by
  have hstop : rest.takeWhile p = [] ∧ rest.dropWhile p = rest := by
    cases rest with
    | nil => exact ⟨rfl, rfl⟩
    | cons a rest =>
      have ha : ¬ p a = true := by simp [hrest a rfl]
      exact ⟨List.takeWhile_cons_of_neg ha, List.dropWhile_cons_of_neg ha⟩
  rw [List.takeWhile_append_of_pos hl, List.dropWhile_append_of_pos hl, hstop.1, hstop.2,
    List.append_nil]
  exact ⟨rfl, rfl⟩

/-- A serialized host without a port that the parser takes for nothing else. -/
structure IsPlainHost (host : List Char) : Prop where
  nonempty : host ≠ []
  clean : ∀ c ∈ host, pathSet c = false ∧ isSlash c = false ∧ c ≠ ':' ∧ c ≠ '@' ∧ c ≠ '['

/-- A literal host is checked by running the parser's own tests on it. -/
theorem isPlainHost_of_check {host : List Char} (hne : host ≠ [])
    (hclean : host.all (fun c =>
      !pathSet c && !isSlash c && c != ':' && c != '@' && c != '[') = true) :
    IsPlainHost host := by
  refine ⟨hne, fun c hc => ?_⟩
  have hcheck := List.all_eq_true.mp hclean c hc
  simpa [and_assoc] using hcheck

/-- A query or a fragment with the mark that leads it. -/
def marked (mark : Char) (text : Option (List Char)) : List Char := (text.map (mark :: ·)).getD []

/-- A URL with the scheme `https`, a plain host, and nothing left to encode. -/
structure IsPlain (host : List Char) (segments : List (List Char)) (query fragment : Option (List Char)) :
    Prop where
  host : IsPlainHost host
  path : segments ≠ []
  segments : ∀ s ∈ segments, IsSegment s
  query : ∀ text ∈ query, ∀ c ∈ text, specialQuerySet c = false
  fragment : ∀ text ∈ fragment, ∀ c ∈ text, fragmentSet c = false

/-- What the path leaves alone starts no query and no fragment. -/
theorem not_queryOrFragment {c : Char} (h : pathSet c = false) : isQueryOrFragment c = false := by
  refine Bool.eq_false_iff.mpr fun habsurd => ?_
  have hcases : c = '?' ∨ c = '#' := by simpa [isQueryOrFragment] using habsurd
  rcases hcases with rfl | rfl <;> revert h <;> decide

/-- What the query leaves alone starts no fragment. -/
theorem ne_hash_of_specialQuerySet {c : Char} (h : specialQuerySet c = false) : c ≠ '#' := by
  rintro rfl
  revert h
  decide

section Plain

variable {host : List Char} {segments : List (List Char)} {query fragment : Option (List Char)}

/-- A plain host has no port. -/
theorem splitPort_host (h : ∀ c ∈ host, c ≠ ':' ∧ c ≠ '[') (brackets : Bool) :
    splitPort brackets host = (host, none) := by
  induction host generalizing brackets with
  | nil => rfl
  | cons c host ih =>
    have hc := h c List.mem_cons_self
    have hrest := ih fun d hd => h d (List.mem_cons_of_mem c hd)
    rw [splitPort, if_neg fun habsurd => hc.1 habsurd.1]
    simp only [hrest]

/-- Nor credentials. -/
theorem splitCredentials_host (h : ∀ c ∈ host, c ≠ '@') : splitCredentials host = ([], [], host) := by
  have hall : ∀ c ∈ host.reverse, decide (c ≠ '@') = true := by
    intro c hc
    simpa using h c (List.mem_reverse.mp hc)
  have hspan : (host.reverse ++ []).takeWhile (· ≠ '@') = host.reverse ∧
      (host.reverse ++ []).dropWhile (· ≠ '@') = [] := span_append hall nofun
  rw [List.append_nil] at hspan
  rw [splitCredentials, hspan.1, hspan.2, List.reverse_reverse]

/-- Path, query and fragment are read back. -/
theorem parseRest_eq (h : IsPlain host segments query fragment) :
    parseRest (joinPath segments ++ marked '?' query ++ marked '#' fragment) =
      (segments, query, fragment) := by
  have hpath : ∀ c ∈ joinPath segments, (!isQueryOrFragment c) = true := by
    intro c hc
    obtain ⟨s, hs, hc⟩ := List.mem_flatMap.mp hc
    rcases List.mem_cons.mp hc with rfl | hc
    · decide
    · rw [not_queryOrFragment ((h.segments s hs).clean c hc).1]
      rfl
  have hhead : ∀ c ∈ (marked '?' query ++ marked '#' fragment).head?,
      (!isQueryOrFragment c) = false := by
    intro c hc
    cases query with
    | some text => exact Option.some.inj hc ▸ rfl
    | none =>
      cases fragment with
      | some text => exact Option.some.inj hc ▸ rfl
      | none => cases hc
  -- The path ends at the first mark.
  have hspan := span_append hpath hhead
  rw [parseRest, List.append_assoc, hspan.1, hspan.2, parsePath_joinPath h.path h.segments]
  have hfragment : ∀ text ∈ fragment, encode fragmentSet text = text :=
    fun text htext => encode_of_clean (h.fragment text htext)
  cases query with
  | none =>
    cases fragment with
    | none => rfl
    | some text =>
      change (segments, none, some (encode fragmentSet text)) = _
      rw [hfragment text rfl]
  | some text =>
    have htext : ∀ c ∈ text, decide (c ≠ '#') = true := by
      intro c hc
      simpa using ne_hash_of_specialQuerySet (h.query text rfl c hc)
    have hmark : ∀ c ∈ (marked '#' fragment).head?, decide (c ≠ '#') = false := by
      intro c hc
      cases fragment with
      | some text => exact Option.some.inj hc ▸ rfl
      | none => cases hc
    -- The query ends at the hash.
    have hspan := span_append htext hmark
    have hquery : marked '?' (some text) = '?' :: text := rfl
    simp only [hquery, List.cons_append, hspan.1, hspan.2, encode_of_clean (h.query text rfl)]
    cases fragment with
    | none => rfl
    | some text =>
      change (segments, _, some (encode fragmentSet text)) = _
      rw [hfragment text rfl]

/-- The URL with these parts. -/
def plainUrl (host : List Char) (segments : List (List Char)) (query fragment : Option (List Char)) :
    Url :=
  { scheme := "https".toList, host := some host, path := .segments segments, query, fragment }

/-- A plain URL is written part by part. -/
theorem href_plainUrl : (plainUrl host segments query fragment).href =
    "https://".toList ++ host ++ (joinPath segments ++ marked '?' query ++ marked '#' fragment) := by
  simp [plainUrl, Url.href, Url.protocol, Url.authority, Url.credentials, Url.hostAndPort,
    Url.hostname, Url.pathname, joinPath, marked]

/-- Every character of the serialized URL is one that the parser keeps. -/
theorem isVisible_href (h : IsPlain host segments query fragment) :
    ∀ c ∈ (plainUrl host segments query fragment).href, isVisible c = true := by
  -- The characters that are not encoded in a query are visible, and so are those of a fragment.
  have hquery : ∀ {c}, specialQuerySet c = false → isVisible c = true := by
    intro c hc
    simp only [specialQuerySet, querySet, Bool.or_eq_false_iff] at hc
    have hspace : c ≠ ' ' := fun habsurd => by simp [habsurd] at hc
    simp [isVisible, hc.1.1, hspace]
  have hfragment : ∀ {c}, fragmentSet c = false → isVisible c = true := by
    intro c hc
    simp only [fragmentSet, Bool.or_eq_false_iff] at hc
    have hspace : c ≠ ' ' := fun habsurd => by simp [habsurd] at hc
    simp [isVisible, hc.1, hspace]
  intro c hc
  rw [href_plainUrl, List.mem_append, List.mem_append, List.mem_append, List.mem_append] at hc
  rcases hc with (hc | hc) | (hc | hc) | hc
  · exact (List.all_eq_true.mp (by decide : "https://".toList.all isVisible = true)) c hc
  · exact isVisible_of_pathSet (h.host.clean c hc).1
  · exact isVisible_joinPath h.segments c hc
  · cases query with
    | none => exact absurd hc List.not_mem_nil
    | some text =>
      rcases List.mem_cons.mp hc with rfl | hc
      · decide
      · exact hquery (h.query text rfl c hc)
  · cases fragment with
    | none => exact absurd hc List.not_mem_nil
    | some text =>
      rcases List.mem_cons.mp hc with rfl | hc
      · decide
      · exact hfragment (h.fragment text rfl c hc)

/-- A plain URL is read back from its serialization, up to what the host is parsed to. -/
theorem parse_href_map (platform : UrlPlatform) (h : IsPlain host segments query fragment) :
    parse platform (plainUrl host segments query fragment).href =
      (platform.parseHost host).map fun parsed =>
        { plainUrl host segments query fragment with host := some parsed } := by
  rw [parse, preprocess_eq_self (isVisible_href h), href_plainUrl]
  let rest := host ++ (joinPath segments ++ marked '?' query ++ marked '#' fragment)
  change parseSpecial platform "https".toList ('/' :: '/' :: rest) = _
  obtain ⟨first, more, hfirst⟩ := List.exists_cons_of_ne_nil h.host.nonempty
  obtain ⟨segment, segments', hsegments⟩ := List.exists_cons_of_ne_nil h.path
  have hslashes : ('/' :: '/' :: rest).dropWhile isSlash = rest := by
    have hclean := (h.host.clean first (hfirst ▸ List.mem_cons_self)).2.1
    change rest.dropWhile isSlash = rest
    simp only [rest, hfirst, List.cons_append]
    exact List.dropWhile_cons_of_neg (by simp [hclean])
  have hspan : rest.takeWhile (fun c => !(isSlash c || isQueryOrFragment c)) = host ∧
      rest.dropWhile (fun c => !(isSlash c || isQueryOrFragment c)) =
        joinPath segments ++ marked '?' query ++ marked '#' fragment := by
    refine span_append (fun c hc => ?_) fun c hc => ?_
    · have hclean := h.host.clean c hc
      simp [hclean.2.1, not_queryOrFragment hclean.1]
    · rw [hsegments] at hc
      exact Option.some.inj hc ▸ rfl
  have hempty : host.isEmpty = false := by
    rw [hfirst]
    rfl
  rw [parseSpecial, hslashes, hspan.1, hspan.2,
    splitCredentials_host fun c hc => (h.host.clean c hc).2.2.2.1]
  dsimp only
  rw [splitPort_host (fun c hc => ⟨(h.host.clean c hc).2.2.1, (h.host.clean c hc).2.2.2.2⟩),
    hempty, parseRest_eq h]
  cases platform.parseHost host <;> rfl

/-- A plain URL is read back from its serialization. -/
theorem parse_href (platform : UrlPlatform) (h : IsPlain host segments query fragment)
    (hparse : platform.parseHost host = some host) :
    parse platform (plainUrl host segments query fragment).href =
      some (plainUrl host segments query fragment) := by
  rw [parse_href_map platform h, hparse]
  rfl

/-- The `pathname` setter takes a serialized path. -/
theorem setPathname_joinPath {url : Url} {old : List (List Char)} (hpath : url.path = .segments old)
    (hne : segments ≠ []) (h : ∀ s ∈ segments, IsSegment s) :
    url.setPathname (joinPath segments) = { url with path := .segments segments } := by
  have hfilter : (joinPath segments).filter (fun c => !isTabOrNewline c) = joinPath segments := by
    refine List.filter_eq_self.mpr fun c hc => ?_
    rw [(not_controlOrSpace_of_isVisible (isVisible_joinPath h c hc)).2]
    rfl
  rw [Url.setPathname, hpath]
  dsimp only
  rw [hfilter, parsePath_joinPath hne h]

end Plain

/-! ## What the parser leaves -/

/-- The path ends where the query or the fragment starts. -/
theorem parseRest_path (input : List Char) :
    (parseRest input).1 = parsePath (input.takeWhile fun c => !isQueryOrFragment c) := by
  unfold parseRest
  dsimp only
  split
  · split <;> rfl
  · rfl
  · rfl

/-- A URL with a special scheme has a path of segments. -/
theorem path_of_parseSpecial {platform : UrlPlatform} {scheme input : List Char} {url : Url}
    (h : parseSpecial platform scheme input = some url) :
    url.scheme = scheme ∧ ∃ segments, url.path = .segments segments ∧ ∀ s ∈ segments, IsSegment s := by
  unfold parseSpecial at h
  dsimp only at h
  split at h
  · cases h
  · obtain ⟨host, -, h⟩ := Option.bind_eq_some_iff.mp h
    obtain ⟨port, -, h⟩ := Option.bind_eq_some_iff.mp h
    cases h
    refine ⟨rfl, _, rfl, ?_⟩
    rw [parseRest_path]
    exact parsePath_isSegment _

/-- The parser gives a URL with a special scheme a path of segments. -/
theorem path_of_parse {platform : UrlPlatform} {input : List Char} {url : Url}
    (h : parse platform input = some url) (hscheme : (defaultPort url.scheme).isSome = true) :
    ∃ segments, url.path = .segments segments ∧ ∀ s ∈ segments, IsSegment s := by
  unfold parse at h
  split at h
  · cases h
  · next scheme rest hparsed =>
      split at h
      · exact (path_of_parseSpecial h).2
      · next hother =>
          obtain ⟨other, -, rfl⟩ := Option.map_eq_some_iff.mp h
          exact absurd hscheme hother

end Whatwg
