import Threadwire.Api.RequestParsing

/-!
# What the server takes as a request

The readers of the requests are strict. `parseTurnRequest_eq_ok` says that a turn request is
accepted exactly when the body is, up to the order and the repetition of its members, the object
that says it, and its handle is one that the registries make; projects and recoveries alike.
-/

namespace Threadwire

open Json.Value (Same)

/-! ## Requests as values -/

/-- The target as the client writes it. -/
def ControllerTurnTarget.toJson : ControllerTurnTarget → Json.Value
  | .fresh => .object [(Text.of "kind", .string (Text.of "FRESH"))]
  | .thread threadHandle =>
    .object [(Text.of "kind", .string (Text.of "THREAD")),
      (Text.of "threadHandle", .string (Text.of threadHandle))]
  | .project projectHandle =>
    .object [(Text.of "kind", .string (Text.of "PROJECT")),
      (Text.of "projectHandle", .string (Text.of projectHandle))]

/-- The request as the client writes it. -/
def ControllerTurnRequest.toJson (request : ControllerTurnRequest) : Json.Value :=
  .object [(Text.of "target", request.target.toJson), (Text.of "prompt", .string request.prompt)]

/-- A target whose handle is one that a registry can have made. -/
def ControllerTurnTarget.Issued : ControllerTurnTarget → Prop
  | .fresh => True
  | .thread threadHandle => ∃ opaqueId, createOpaqueThreadHandle opaqueId = .ok threadHandle
  | .project projectHandle => ∃ value, createOpaqueProjectHandle value = .ok projectHandle

/-- What the server asks of a turn request. -/
structure ControllerTurnRequest.Valid (maxPromptBytes : ℕ) (request : ControllerTurnRequest) :
    Prop where
  prompt : request.prompt ≠ []
  promptBytes : request.prompt.byteLength ≤ maxPromptBytes
  target : request.target.Issued

/-! ## Handles -/

section Handles

/-- A character of the basic plane is one code unit, which is the character's number. -/
theorem toNat_of_mem_text {chars : List Char} (h : ∀ c ∈ chars, c.toNat < 0x10000) :
    (Text.of (String.ofList chars)).map (fun unit => Char.ofNat unit.toNat) = chars := by
  rw [Text.of_ofList]
  induction chars with
  | nil => rfl
  | cons c chars ih =>
    obtain ⟨hc, hchars⟩ := List.forall_mem_cons.mp h
    have hunit : (UInt16.ofNat c.toNat).toNat = c.toNat := by
      rw [UInt16.toNat_ofNat']
      exact Nat.mod_eq_of_lt hc
    rw [List.flatMap_cons, encodeUtf16, if_pos hc, List.singleton_append, List.map_cons, hunit,
      Char.ofNat_toNat, ih hchars]

/-- Units that are characters other than the null character are the text of these. -/
theorem text_of_chars {units : Text}
    (h : ∀ c ∈ units.map fun unit => Char.ofNat unit.toNat, c ≠ '\x00') :
    Text.of (String.ofList (units.map fun unit => Char.ofNat unit.toNat)) = units := by
  rw [Text.of_ofList]
  induction units with
  | nil => rfl
  | cons unit units ih =>
    rw [List.map_cons] at h
    obtain ⟨hunit, hunits⟩ := List.forall_mem_cons.mp h
    have hvalid : unit.toNat.isValidChar := by
      by_contra hinvalid
      exact hunit (by rw [Char.ofNat, dif_neg hinvalid]; rfl)
    have hnat : (Char.ofNat unit.toNat).toNat = unit.toNat := by
      rw [Char.ofNat, dif_pos hvalid]
      rfl
    have hlt : unit.toNat < 0x10000 := unit.toNat_lt
    rw [List.map_cons, List.flatMap_cons, ih hunits, hnat, encodeUtf16, if_pos hlt,
      UInt16.ofNat_toNat]
    rfl

/-- The characters of an opaque id are ASCII. -/
theorem isOpaqueIdChar_bounds {c : Char} (h : isOpaqueIdChar c = true) :
    0 < c.toNat ∧ c.toNat < 0x80 := by
  simp only [isOpaqueIdChar, Bool.or_eq_true, Bool.and_eq_true, decide_eq_true_eq, beq_iff_eq,
    Char.le_def, UInt32.le_iff_toNat_le] at h
  rcases h with (((⟨h, h'⟩ | ⟨h, h'⟩) | ⟨h, h'⟩) | rfl) | rfl
  · exact ⟨lt_of_lt_of_le (by decide) h, lt_of_le_of_lt h' (by decide)⟩
  · exact ⟨lt_of_lt_of_le (by decide) h, lt_of_le_of_lt h' (by decide)⟩
  · exact ⟨lt_of_lt_of_le (by decide) h, lt_of_le_of_lt h' (by decide)⟩
  · decide
  · decide

/-- The handles with a mark in front of their opaque part. -/
def IsHandle (mark : String) (handle : String) : Prop :=
  ∃ opaqueId : String, handle = mark ++ opaqueId ∧ 1 ≤ opaqueId.toList.length ∧
    opaqueId.toList.length ≤ 128 ∧ opaqueId.toList.all isOpaqueIdChar = true

/-- A handle is parsed exactly where it is written with its mark and an opaque part. -/
theorem parseHandle_eq_ok {mark : String}
    (hascii : mark.toList.all (fun c => decide (0 < c.toNat ∧ c.toNat < 0x80)) = true)
    {value : Option Json.Value} {handle : String} :
    parseHandle mark value = .ok handle ↔
      value = some (.string (Text.of handle)) ∧ IsHandle mark handle := by
  have hmark : ∀ c ∈ mark.toList, 0 < c.toNat ∧ c.toNat < 0x80 := fun c hc =>
    of_decide_eq_true (List.all_eq_true.mp hascii c hc)
  constructor
  · intro h
    unfold parseHandle at h
    split at h
    · rename_i units
      simp only at h
      split_ifs at h with hhandle
      obtain ⟨htake, hone, hmax, hall⟩ := hhandle
      rw [Except.ok.injEq] at h
      generalize hvalue : (units.map fun unit => Char.ofNat unit.toNat) =
        chars at h htake hone hmax hall
      have hchars : chars = mark.toList ++ chars.drop mark.length := by
        rw [← htake, List.take_append_drop]
      -- A unit that is no character becomes a NUL, so the units can be read back where there is
      -- none.
      have hne : ∀ c ∈ chars, c ≠ '\x00' := by
        intro c hc
        rw [hchars, List.mem_append] at hc
        have hpos : 0 < c.toNat := by
          rcases hc with hc | hc
          · exact (hmark c hc).1
          · exact (isOpaqueIdChar_bounds (List.all_eq_true.mp hall c hc)).1
        rintro rfl
        exact absurd hpos (by decide)
      refine ⟨?_, String.ofList (chars.drop mark.length), ?_, ?_⟩
      · rw [← h, ← hvalue, text_of_chars (by rwa [hvalue])]
      · rw [← h, ← String.toList_inj, String.toList_append, String.toList_ofList,
          String.toList_ofList]
        exact hchars
      · rw [String.toList_ofList]
        exact ⟨hone, hmax, hall⟩
    · cases h
  · rintro ⟨rfl, opaqueId, rfl, hone, hmax, hall⟩
    -- In the other direction every character of a handle is ASCII, so its units are its characters.
    have hchars : (Text.of (mark ++ opaqueId)).map (fun unit => Char.ofNat unit.toNat) =
        mark.toList ++ opaqueId.toList := by
      rw [← String.ofList_toList (s := mark ++ opaqueId), toNat_of_mem_text, String.toList_append]
      intro c hc
      rw [String.toList_append, List.mem_append] at hc
      rcases hc with hc | hc
      · exact lt_trans (hmark c hc).2 (by decide)
      · exact lt_trans (isOpaqueIdChar_bounds (List.all_eq_true.mp hall c hc)).2 (by decide)
    have hlength : mark.length = mark.toList.length := String.length_toList.symm
    rw [parseHandle]
    simp only [hchars, hlength, List.take_left, List.drop_left]
    rw [if_pos ⟨trivial, hone, hmax, hall⟩, ← String.toList_append, String.ofList_toList]

end Handles

/-! ## Exact acceptance -/

section Acceptance

variable {maxPromptBytes : ℕ} {members : List (Text × Json.Value)}

/-- The handles of threads are those that a registry makes. -/
theorem isHandle_thread_iff {handle : String} :
    IsHandle "tw_" handle ↔ ∃ opaqueId, createOpaqueThreadHandle opaqueId = .ok handle := by
  refine exists_congr fun opaqueId => ?_
  unfold createOpaqueThreadHandle
  split_ifs with h
  · rw [Except.ok.injEq]
    exact ⟨fun hhandle => hhandle.1.symm, fun hhandle => ⟨hhandle.symm, h⟩⟩
  · exact ⟨fun hhandle => absurd hhandle.2 h, fun hhandle => by cases hhandle⟩

/-- And those of projects. -/
theorem isHandle_project_iff {handle : String} :
    IsHandle "prj_" handle ↔ ∃ value, createOpaqueProjectHandle value = .ok handle := by
  refine exists_congr fun value => ?_
  unfold createOpaqueProjectHandle
  split_ifs with h
  · rw [Except.ok.injEq]
    exact ⟨fun hhandle => hhandle.1.symm, fun hhandle => ⟨hhandle.symm, h⟩⟩
  · exact ⟨fun hhandle => absurd hhandle.2 h, fun hhandle => by cases hhandle⟩

/-- A record is an object. -/
theorem asRecord_eq_some {value record : Json.Value} :
    asRecord value = some record ↔ value = record ∧ ∃ members, record = .object members := by
  unfold asRecord
  split
  · rw [Option.some.injEq]
    exact ⟨fun h => ⟨h, _, h.symm⟩, fun h => h.1⟩
  · rename_i hvalue
    constructor
    · intro h
      cases h
    · rintro ⟨rfl, members, rfl⟩
      exact absurd rfl (hvalue members)

/-- The check of the keys, and the properties under them. -/
theorem same_object_iff_hasExactKeys {fields : List (Text × Json.Value)}
    (hnames : (fields.map Prod.fst).Nodup) :
    Same (.object members) (.object fields) ↔
      hasExactKeys (.object members) (fields.map Prod.fst) = true ∧
        ∀ f ∈ fields, ∃ v, (Json.Value.object members).property? f.1 = some v ∧ Same v f.2 := by
  rw [Json.Value.same_object_iff hnames, hasExactKeys, beq_iff_eq]

/-- A string is the same as itself only. -/
theorem exists_same_string {value : Option Json.Value} {units : Text} :
    (∃ v, value = some v ∧ Same v (.string units)) ↔ value = some (.string units) := by
  simp only [Json.Value.same_string_iff]
  constructor
  · rintro ⟨v, h, rfl⟩
    exact h
  · intro h
    exact ⟨_, h, rfl⟩

/-- A fresh target is an object with its kind, and nothing else. -/
theorem same_fresh_iff :
    Same (.object members) ControllerTurnTarget.fresh.toJson ↔
      hasExactKeys (.object members) [Text.of "kind"] = true ∧
        (Json.Value.object members).property? (Text.of "kind") =
          some (.string (Text.of "FRESH")) := by
  have hnames : ([(Text.of "kind", Json.Value.string (Text.of "FRESH"))].map Prod.fst).Nodup :=
    List.nodup_singleton _
  rw [ControllerTurnTarget.toJson, same_object_iff_hasExactKeys hnames, List.forall_mem_singleton,
    exists_same_string]
  rfl

/-- An object with a kind and a handle under its own name. -/
theorem same_handle_iff {kind name handle : Text} (hname : Text.of "kind" ≠ name) :
    Same (.object members) (.object [(Text.of "kind", .string kind), (name, .string handle)]) ↔
      hasExactKeys (.object members) [Text.of "kind", name] = true ∧
        (Json.Value.object members).property? (Text.of "kind") = some (.string kind) ∧
        (Json.Value.object members).property? name = some (.string handle) := by
  have hnames : ([(Text.of "kind", Json.Value.string kind), (name, .string handle)].map
      Prod.fst).Nodup := by
    simpa using hname
  rw [same_object_iff_hasExactKeys hnames, List.forall_mem_cons, List.forall_mem_singleton,
    exists_same_string, exists_same_string]
  rfl

theorem kind_ne_threadHandle : Text.of "kind" ≠ Text.of "threadHandle" :=
  Text.of_ofList_ne (by decide)

theorem kind_ne_projectHandle : Text.of "kind" ≠ Text.of "projectHandle" :=
  Text.of_ofList_ne (by decide)

theorem fresh_ne_thread : Text.of "FRESH" ≠ Text.of "THREAD" := Text.of_ofList_ne (by decide)

theorem fresh_ne_project : Text.of "FRESH" ≠ Text.of "PROJECT" := Text.of_ofList_ne (by decide)

theorem thread_ne_project : Text.of "THREAD" ≠ Text.of "PROJECT" := Text.of_ofList_ne (by decide)

/-- A thread's handle is read as it was issued. -/
theorem parseThreadHandle_eq_ok {value : Option Json.Value} {handle : String} :
    parseThreadHandle value = .ok handle ↔ value = some (.string (Text.of handle)) ∧
      ∃ opaqueId, createOpaqueThreadHandle opaqueId = .ok handle := by
  rw [parseThreadHandle, parseHandle_eq_ok (by decide), isHandle_thread_iff]

/-- And a project's. -/
theorem parseProjectHandle_eq_ok {value : Option Json.Value} {handle : String} :
    parseProjectHandle value = .ok handle ↔ value = some (.string (Text.of handle)) ∧
      ∃ value, createOpaqueProjectHandle value = .ok handle := by
  rw [parseProjectHandle, parseHandle_eq_ok (by decide), isHandle_project_iff]

/-- What a mapped result comes from. -/
theorem map_eq_ok {ε α β : Type} {x : Except ε α} {f : α → β} {b : β} :
    x.map f = .ok b ↔ ∃ a, x = .ok a ∧ f a = b := by
  cases x with
  | error e =>
    constructor
    · intro h
      cases h
    · rintro ⟨a, ha, -⟩
      cases ha
  | ok a =>
    constructor
    · intro h
      exact ⟨a, rfl, Except.ok.inj h⟩
    · rintro ⟨a', ha', rfl⟩
      rw [Except.ok.inj ha']
      rfl

/-- The three targets, by their kinds. -/
theorem parseTargetRecord_eq_ok {target : ControllerTurnTarget} :
    parseTargetRecord (.object members) = .ok target ↔
      Same (.object members) target.toJson ∧ target.Issued := by
  constructor
  · intro h
    unfold parseTargetRecord at h
    split at h
    · rename_i kind hkind
      -- Each kind is tested with its own list of keys.
      split_ifs at h with hfresh hkeys hthread hkeys hproject hkeys
      · obtain rfl := Except.ok.inj h
        rw [Bool.not_eq_true'] at hkeys
        rw [hfresh] at hkind
        exact ⟨same_fresh_iff.mpr ⟨by simpa using hkeys, hkind⟩, trivial⟩
      · obtain ⟨handle, hparsed, rfl⟩ := map_eq_ok.mp h
        obtain ⟨hvalue, hissued⟩ := parseThreadHandle_eq_ok.mp hparsed
        rw [hthread] at hkind
        exact ⟨(same_handle_iff kind_ne_threadHandle).mpr ⟨by simpa using hkeys, hkind, hvalue⟩,
          hissued⟩
      · obtain ⟨handle, hparsed, rfl⟩ := map_eq_ok.mp h
        obtain ⟨hvalue, hissued⟩ := parseProjectHandle_eq_ok.mp hparsed
        rw [hproject] at hkind
        exact ⟨(same_handle_iff kind_ne_projectHandle).mpr ⟨by simpa using hkeys, hkind, hvalue⟩,
          hissued⟩
    · cases h
  · rintro ⟨hsame, hissued⟩
    cases target with
    | fresh =>
      obtain ⟨hkeys, hkind⟩ := same_fresh_iff.mp hsame
      simp only [parseTargetRecord, hkind, hkeys]
      rfl
    | thread handle =>
      obtain ⟨hkeys, hkind, hvalue⟩ := (same_handle_iff kind_ne_threadHandle).mp hsame
      simp only [parseTargetRecord, hkind, hkeys, hvalue, fresh_ne_thread.symm,
        parseThreadHandle_eq_ok.mpr ⟨rfl, hissued⟩]
      rfl
    | project handle =>
      obtain ⟨hkeys, hkind, hvalue⟩ := (same_handle_iff kind_ne_projectHandle).mp hsame
      simp only [parseTargetRecord, hkind, hkeys, hvalue, fresh_ne_project.symm,
        thread_ne_project.symm, parseProjectHandle_eq_ok.mpr ⟨rfl, hissued⟩]
      rfl

/-- Only an object is the same as a target. -/
theorem exists_object_of_same {value : Json.Value} {target : ControllerTurnTarget}
    (h : Same value target.toJson) : ∃ members, value = .object members := by
  cases target <;> (cases h; exact ⟨_, rfl⟩)

/-- A target that is missing is none. -/
theorem parseTurnTarget_eq_ok {value : Option Json.Value} {target : ControllerTurnTarget} :
    parseTurnTarget value = .ok target ↔
      (∃ v, value = some v ∧ Same v target.toJson) ∧ target.Issued := by
  constructor
  · intro h
    unfold parseTurnTarget at h
    split at h
    · cases h
    · rename_i record hrecord
      obtain ⟨v, rfl, hv⟩ := Option.bind_eq_some_iff.mp hrecord
      obtain ⟨rfl, members, rfl⟩ := asRecord_eq_some.mp hv
      obtain ⟨hsame, hissued⟩ := parseTargetRecord_eq_ok.mp h
      exact ⟨⟨_, rfl, hsame⟩, hissued⟩
  · rintro ⟨⟨v, rfl, hsame⟩, hissued⟩
    obtain ⟨members, rfl⟩ := exists_object_of_same hsame
    exact parseTargetRecord_eq_ok.mpr ⟨hsame, hissued⟩

/-- A request has its two members, in either order. -/
theorem same_request_iff {request : ControllerTurnRequest} :
    Same (.object members) request.toJson ↔
      hasExactKeys (.object members) [Text.of "target", Text.of "prompt"] = true ∧
        (∃ v, (Json.Value.object members).property? (Text.of "target") = some v ∧
          Same v request.target.toJson) ∧
        (Json.Value.object members).property? (Text.of "prompt") =
          some (.string request.prompt) := by
  have hnames : ([(Text.of "target", request.target.toJson),
      (Text.of "prompt", Json.Value.string request.prompt)].map Prod.fst).Nodup := by
    have hne : Text.of "target" ≠ Text.of "prompt" := Text.of_ofList_ne (by decide)
    simpa using hne
  rw [ControllerTurnRequest.toJson, same_object_iff_hasExactKeys hnames, List.forall_mem_cons,
    List.forall_mem_singleton, exists_same_string]
  rfl

/-- A turn request is accepted exactly when the body is the object that says it, up to the order and
the repetition of members, and it is within the limits. -/
theorem parseTurnRequest_eq_ok {value : Json.Value} {request : ControllerTurnRequest} :
    parseTurnRequest maxPromptBytes value = .ok request ↔
      Same value request.toJson ∧ request.Valid maxPromptBytes := by
  constructor
  · intro h
    unfold parseTurnRequest at h
    split at h
    · cases h
    · rename_i body hbody
      obtain ⟨rfl, members, rfl⟩ := asRecord_eq_some.mp hbody
      split_ifs at h with hkeys
      split at h
      · rename_i prompt hprompt
        split_ifs at h with hempty hbytes
        obtain ⟨target, htarget, rfl⟩ := map_eq_ok.mp h
        obtain ⟨hsame, hissued⟩ := parseTurnTarget_eq_ok.mp htarget
        exact ⟨same_request_iff.mpr ⟨by simpa using hkeys, hsame, hprompt⟩,
          ⟨hempty, Nat.not_lt.mp hbytes, hissued⟩⟩
      · cases h
  · rintro ⟨hsame, hvalid⟩
    obtain ⟨members, rfl⟩ : ∃ members, value = .object members := by
      cases hsame
      exact ⟨_, rfl⟩
    obtain ⟨hkeys, htarget, hprompt⟩ := same_request_iff.mp hsame
    have hparsed := parseTurnTarget_eq_ok.mpr ⟨htarget, hvalid.target⟩
    simp only [parseTurnRequest, asRecord, hkeys, hprompt, hvalid.prompt,
      Nat.not_lt.mpr hvalid.promptBytes, hparsed]
    rfl

/-- The same for projects: the name alone, as `createProjectName` takes it. -/
theorem parseProjectRequest_eq_ok {unicode : UnicodePlatform} {value : Json.Value} {name : Text} :
    parseProjectRequest unicode value = .ok name ↔
      Same value (.object [(Text.of "name", .string name)]) ∧
        createProjectName unicode name = .ok name := by
  -- The name is returned as it was given, so the check may be repeated on it.
  have hname : ∀ {text : Text}, createProjectName unicode text = .ok name → text = name := by
    intro text h
    unfold createProjectName at h
    split_ifs at h
    exact Except.ok.inj h
  have hsame : ∀ {members}, Same (.object members) (.object [(Text.of "name", .string name)]) ↔
      hasExactKeys (.object members) [Text.of "name"] = true ∧
        (Json.Value.object members).property? (Text.of "name") = some (.string name) := by
    intro members
    have hnames : ([(Text.of "name", Json.Value.string name)].map Prod.fst).Nodup :=
      List.nodup_singleton _
    rw [same_object_iff_hasExactKeys hnames, List.forall_mem_singleton, exists_same_string]
    rfl
  constructor
  · intro h
    unfold parseProjectRequest at h
    split at h
    · cases h
    · -- The body is a record of the one key, and its name passes.
      rename_i body hbody
      obtain ⟨rfl, members, rfl⟩ := asRecord_eq_some.mp hbody
      split_ifs at h with hkeys
      split at h
      · rename_i text htext
        cases hcreated : createProjectName unicode text with
        | error e => rw [hcreated] at h; cases h
        | ok result =>
          rw [hcreated] at h
          obtain rfl : result = name := Except.ok.inj h
          obtain rfl := hname hcreated
          exact ⟨hsame.mpr ⟨by simpa using hkeys, htext⟩, hcreated⟩
      · cases h
  · rintro ⟨hvalue, hcreated⟩
    obtain ⟨members, rfl⟩ : ∃ members, value = .object members := by
      cases hvalue
      exact ⟨_, rfl⟩
    -- The other way the record is known, so every check of the parser can be evaluated.
    obtain ⟨hkeys, htext⟩ := hsame.mp hvalue
    simp only [parseProjectRequest, asRecord, hkeys, htext, hcreated]
    rfl

/-- A recovery request is the empty object. -/
theorem parseRuntimeRecoveryRequest_eq_ok {value : Json.Value} :
    parseRuntimeRecoveryRequest value = .ok () ↔ Same value (.object []) := by
  have hsame : ∀ {members}, Same (.object members) (.object []) ↔
      hasExactKeys (.object members) [] = true := by
    intro members
    have hnames : (([] : List (Text × Json.Value)).map Prod.fst).Nodup := List.nodup_nil
    rw [same_object_iff_hasExactKeys hnames]
    exact and_iff_left fun f hf => absurd hf List.not_mem_nil
  constructor
  · intro h
    unfold parseRuntimeRecoveryRequest at h
    split at h
    · cases h
    · rename_i body hbody
      obtain ⟨rfl, members, rfl⟩ := asRecord_eq_some.mp hbody
      split_ifs at h with hkeys
      exact hsame.mpr (by simpa using hkeys)
  · intro hvalue
    obtain ⟨members, rfl⟩ : ∃ members, value = .object members := by
      cases hvalue
      exact ⟨_, rfl⟩
    simp only [parseRuntimeRecoveryRequest, asRecord, hsame.mp hvalue]
    rfl

end Acceptance

end Threadwire
