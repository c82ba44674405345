import Mathlib.Data.List.Induction
import Threadwire.Cdp.CdpTargetDiscovery

/-!
# What target discovery finds

The choice of a target depends on the pages in the list and not on their order: `selection_law` says
when there is one and which it is. `search_law` follows the search over every order of answers,
timers, deadline and abort, to what the caller gets.
-/

namespace Threadwire

open Whatwg (UrlPlatform)

/-! ## The choice -/

section Selection

variable {platform : UrlPlatform} {targets targets' : List CdpTargetInfo}

/-- The target with its URL, if it is a page of ChatGPT. -/
def chatGptPage? (platform : UrlPlatform) (target : CdpTargetInfo) :
    Option (CdpTargetInfo × Whatwg.Url) :=
  if target.type = Text.of "page" then
    (parseTargetUrl platform target).bind fun url =>
      if isChatGptUrl url then some (target, url) else none
  else none

/-- A page has a URL, and one of ChatGPT an endpoint to attach to. -/
def IsSoundTarget (platform : UrlPlatform) (target : CdpTargetInfo) : Prop :=
  target.type = Text.of "page" → ∃ url, parseTargetUrl platform target = some url ∧
    (isChatGptUrl url = true → target.webSocketDebuggerUrl.getD [] ≠ [])

/-- The pages of ChatGPT that are the chat bar. -/
def chatbarPages (platform : UrlPlatform) (targets : List CdpTargetInfo) :
    List (CdpTargetInfo × Whatwg.Url) :=
  (targets.filterMap (chatGptPage? platform)).filter (isKnownChatbarTarget ·.2)

/-- The other pages of ChatGPT. -/
def plainPages (platform : UrlPlatform) (targets : List CdpTargetInfo) :
    List (CdpTargetInfo × Whatwg.Url) :=
  (targets.filterMap (chatGptPage? platform)).filter (!isKnownChatbarTarget ·.2)

/-- Where every target is sound, the loop collects the pages of ChatGPT. -/
theorem eligibleTargets_of_sound (hsound : ∀ target ∈ targets, IsSoundTarget platform target) :
    eligibleTargets platform targets = .ok (targets.filterMap (chatGptPage? platform)) := by
  induction targets with
  | nil => rfl
  | cons target targets ih =>
    obtain ⟨htarget, htargets⟩ := List.forall_mem_cons.mp hsound
    rw [eligibleTargets, List.filterMap_cons, chatGptPage?, ih htargets]
    by_cases hpage : target.type = Text.of "page"
    · obtain ⟨url, hurl, hendpoint⟩ := htarget hpage
      rw [if_neg (not_not.mpr hpage), if_pos hpage, hurl]
      by_cases hchatGpt : isChatGptUrl url = true
      · simp [hchatGpt, hendpoint hchatGpt, Except.map]
      · simp [hchatGpt]
    · rw [if_pos hpage, if_neg hpage]

/-- One target that is not sound spoils the list, wherever it stands. -/
theorem eligibleTargets_of_not_sound
    (hunsound : ∃ target ∈ targets, ¬IsSoundTarget platform target) :
    eligibleTargets platform targets = .error targetListMalformed := by
  induction targets with
  | nil =>
    obtain ⟨target, htarget, -⟩ := hunsound
    cases htarget
  | cons target targets ih =>
    -- the loop throws at the first target that is not sound; where this one is sound, a later one
    -- is not
    have hrest : IsSoundTarget platform target →
        eligibleTargets platform targets = .error targetListMalformed := by
      intro htarget
      obtain ⟨target', hmem, htarget'⟩ := hunsound
      rcases List.mem_cons.mp hmem with rfl | hmem
      · exact absurd htarget htarget'
      · exact ih ⟨target', hmem, htarget'⟩
    rw [eligibleTargets]
    by_cases hpage : target.type = Text.of "page"
    · rw [if_neg (not_not.mpr hpage)]
      cases hurl : parseTargetUrl platform target with
      | none => rfl
      | some url =>
        dsimp only
        split_ifs with hchatGpt hendpoint
        · exact hrest fun _ => ⟨url, hurl, fun h => by simp [h] at hchatGpt⟩
        · rfl
        · rw [hrest fun _ => ⟨url, hurl, fun _ => hendpoint⟩]
          rfl
    · rw [if_pos hpage]
      exact hrest fun h => absurd h hpage

/-- The one page where there is one, beside at most one chat bar. -/
def chosenPage (chatbars pages : List (CdpTargetInfo × Whatwg.Url)) :
    Except ThrownError CdpTargetInfo :=
  if 2 ≤ chatbars.length ∨ 2 ≤ pages.length then .error (.ofCode .cdpTargetAmbiguous)
  else
    match pages.head? with
    | some (target, _) => .ok target
    | none => .error (.ofCode .cdpTargetNotFound)

/-- The cases of the source, by the number of pages, are the choice by their kinds. -/
theorem selectEligible_eq (eligible : List (CdpTargetInfo × Whatwg.Url)) :
    selectEligible eligible = chosenPage (eligible.filter (isKnownChatbarTarget ·.2))
      (eligible.filter (!isKnownChatbarTarget ·.2)) := by
  -- none, one, two, or more, as the source distinguishes them
  rcases eligible with _ | ⟨a, _ | ⟨b, _ | ⟨c, rest⟩⟩⟩
  · rfl
  · obtain ⟨target, url⟩ := a
    cases h : isKnownChatbarTarget url <;> simp [selectEligible, chosenPage, h]
  · obtain ⟨target, url⟩ := a
    obtain ⟨target', url'⟩ := b
    cases h : isKnownChatbarTarget url <;> cases h' : isKnownChatbarTarget url' <;>
      simp [selectEligible, chosenPage, h, h']
  · -- of three pages, two are chat bars or two are not
    have hlength := List.length_eq_length_filter_add (l := a :: b :: c :: rest)
      (isKnownChatbarTarget ·.2)
    simp only [List.length_cons] at hlength
    rw [chosenPage, if_pos (by omega)]
    rfl

/-- The choice from a list of sound targets. -/
theorem selectPrimaryChatGptTarget_of_sound
    (hsound : ∀ target ∈ targets, IsSoundTarget platform target) :
    selectPrimaryChatGptTarget platform targets =
      chosenPage (chatbarPages platform targets) (plainPages platform targets) := by
  rw [selectPrimaryChatGptTarget, eligibleTargets_of_sound hsound]
  exact selectEligible_eq _

/-- There is none from any other list. -/
theorem selectPrimaryChatGptTarget_of_not_sound
    (hunsound : ¬∀ target ∈ targets, IsSoundTarget platform target) :
    selectPrimaryChatGptTarget platform targets = .error targetListMalformed := by
  rw [selectPrimaryChatGptTarget,
    eligibleTargets_of_not_sound (by push Not at hunsound; exact hunsound)]
  rfl

/-- A page is chosen where it is the only one, and not hidden by two chat bars. -/
theorem chosenPage_eq_ok {chatbars pages : List (CdpTargetInfo × Whatwg.Url)}
    {target : CdpTargetInfo} :
    chosenPage chatbars pages = .ok target ↔
      chatbars.length ≤ 1 ∧ ∃ url, pages = [(target, url)] := by
  unfold chosenPage
  rcases pages with _ | ⟨⟨page, url⟩, _ | ⟨page', pages⟩⟩
  · split_ifs <;> simp
  · by_cases hchatbars : 2 ≤ chatbars.length
    · rw [if_pos (.inl hchatbars)]
      simp [Nat.not_le.mpr hchatbars]
    · rw [if_neg (by simpa using hchatbars)]
      have hone : chatbars.length ≤ 1 := by omega
      simp [hone]
  · rw [if_pos (.inr (by simp))]
    simp

/-- The choice depends on the pages, not on their order. -/
theorem chosenPage_perm {chatbars chatbars' pages pages' : List (CdpTargetInfo × Whatwg.Url)}
    (hchatbars : chatbars.Perm chatbars') (hpages : pages.Perm pages') :
    chosenPage chatbars pages = chosenPage chatbars' pages' := by
  unfold chosenPage
  rw [hchatbars.length_eq, hpages.length_eq]
  by_cases hmany : 2 ≤ chatbars'.length ∨ 2 ≤ pages'.length
  · rw [if_pos hmany, if_pos hmany]
  · rw [if_neg hmany, if_neg hmany]
    -- at most one page is left, and a list of at most one is its only arrangement
    have hsingle : pages'.length ≤ 1 := by omega
    rcases pages' with _ | ⟨page, _ | ⟨page', pages'⟩⟩
    · rw [List.perm_nil.mp hpages]
    · rw [List.perm_singleton.mp hpages]
    · simp at hsingle

/-- The choice is the same for every order of the list; it falls on the one page of ChatGPT that is
not the chat bar, where the list has one, at most one chat bar beside it, and no page that is
malformed. -/
theorem selection_law (hperm : targets.Perm targets') :
    selectPrimaryChatGptTarget platform targets = selectPrimaryChatGptTarget platform targets' ∧
      ∀ target, selectPrimaryChatGptTarget platform targets = .ok target ↔
        (∀ target ∈ targets, IsSoundTarget platform target) ∧
          (chatbarPages platform targets).length ≤ 1 ∧
          ∃ url, plainPages platform targets = [(target, url)] := by
  have hpages := hperm.filterMap (chatGptPage? platform)
  by_cases hsound : ∀ target ∈ targets, IsSoundTarget platform target
  · have hsound' : ∀ target ∈ targets', IsSoundTarget platform target := fun target htarget =>
      hsound target (hperm.mem_iff.mpr htarget)
    rw [selectPrimaryChatGptTarget_of_sound hsound, selectPrimaryChatGptTarget_of_sound hsound']
    exact ⟨chosenPage_perm (hpages.filter _) (hpages.filter _), fun target =>
      chosenPage_eq_ok.trans (and_iff_right hsound).symm⟩
  · have hsound' : ¬∀ target ∈ targets', IsSoundTarget platform target := fun h =>
      hsound fun target htarget => h target (hperm.mem_iff.mp htarget)
    rw [selectPrimaryChatGptTarget_of_not_sound hsound,
      selectPrimaryChatGptTarget_of_not_sound hsound']
    refine ⟨rfl, fun target => ⟨fun h => ?_, fun h => absurd h.1 hsound⟩⟩
    cases h

/-- A target with an endpoint. -/
def targetAt (id type url : String) : CdpTargetInfo where
  id := Text.of id
  title := []
  type := Text.of type
  description := []
  webSocketDebuggerUrl := some (Text.of "ws://127.0.0.1:9222/devtools/page/1")
  url := Text.of url

/-- The chat bar, a worker and a conversation. -/
def chatbarFirst : List CdpTargetInfo :=
  [targetAt "bar" "page" "https://chatgpt.com/?window_style=chatbar_view",
    targetAt "worker" "worker" "https://chatgpt.com/sw.js",
    targetAt "main" "page" "https://chatgpt.com/c/1"]

/-- The conversation is chosen, in the one order of the list and in the other. -/
theorem selection_law_swap :
    selectPrimaryChatGptTarget DiscoveryPlatform.plain.url chatbarFirst =
      .ok (targetAt "main" "page" "https://chatgpt.com/c/1") ∧
    selectPrimaryChatGptTarget DiscoveryPlatform.plain.url chatbarFirst.reverse =
      .ok (targetAt "main" "page" "https://chatgpt.com/c/1") := by
  have hfirst : selectPrimaryChatGptTarget DiscoveryPlatform.plain.url chatbarFirst =
      .ok (targetAt "main" "page" "https://chatgpt.com/c/1") := by
    decide +kernel
  exact ⟨hfirst, (selection_law chatbarFirst.reverse_perm).1.trans hfirst⟩

end Selection

/-! ## The search -/

/-- What one answer of the client comes to. -/
def outcomeOf (platform : DiscoveryPlatform) (answer : Except ThrownError Text) :
    Except ThrownError CdpTargetInfo :=
  (targetsOf platform answer).bind (selectPrimaryChatGptTarget platform.url)

/-- The answer is a target list. -/
def isTargetList (platform : DiscoveryPlatform) (answer : Except ThrownError Text) : Bool :=
  (targetsOf platform answer).toBool

/-- The loop tries again after the answer. -/
def Retried (platform : DiscoveryPlatform) (answer : Except ThrownError Text) : Prop :=
  ∃ error, outcomeOf platform answer = .error error ∧ isRetried error = true

/-- The answers among the inputs. -/
def answersOf (inputs : List SearchInput) : List (Except ThrownError Text) :=
  inputs.filterMap fun
    | .answered answer => some answer
    | _ => none

/-- The error that an input stops the signal with. -/
def SearchInput.stop? : SearchInput → Option ThrownError
  | .deadline => some discoveryTimeoutError
  | .aborted reason => some (parentAbortError reason)
  | _ => none

/-- The outcome is the one that the search has come to by itself: it was refused because the
caller's signal was aborted before, or the last answer decided it and those before were tried
again. -/
inductive Decides (platform : DiscoveryPlatform) (parent : Option (Option ThrownError))
    (answers : List (Except ThrownError Text)) : Except ThrownError CdpTargetInfo → Prop
  | refused {reason : Option ThrownError} (hparent : parent = some reason)
    (hanswers : answers = []) :
      Decides platform parent answers (.error (abortedError reason))
  | answered {before : List (Except ThrownError Text)} {answer : Except ThrownError Text}
      (hanswers : answers = before ++ [answer]) (hbefore : ∀ a ∈ before, Retried platform a)
      (hfinal : ¬Retried platform answer) :
      Decides platform parent answers (outcomeOf platform answer)

namespace TargetSearch

variable {platform : DiscoveryPlatform} {parent : Option (Option ThrownError)}
  {past : List SearchInput} {s s' : TargetSearch}

/-- What is true of a search after its inputs. -/
structure Searched (platform : DiscoveryPlatform) (parent : Option (Option ThrownError))
    (past : List SearchInput) (s : TargetSearch) : Prop where
  saw : s.sawValidTargetList = (answersOf past).any (isTargetList platform)
  stopped : ∀ reason, s.stopped = some reason →
    (∃ input ∈ past, input.stop? = some reason) ∧ s.raced = some (.error (abortedError reason))
  delaying : s.phase = .delaying → s.stopped = none
  running : (∀ outcome, s.phase ≠ .ended outcome) → ∀ a ∈ answersOf past, Retried platform a
  ended : ∀ outcome, s.phase = .ended outcome →
    Decides platform parent (answersOf past) outcome ∨
      ∃ reason, s.stopped = some reason ∧ outcome = .error (abortedError reason)
  raced : ∀ outcome, s.raced = some outcome → s.stopped = none → s.phase = .ended outcome

theorem searched_initial : Searched platform parent [] (initial parent) := by
  cases parent with
  | none =>
    refine ⟨rfl, fun reason h => ?_, fun _ => rfl, fun _ a ha => ?_, fun outcome h => ?_,
      fun outcome h => ?_⟩
    · cases h
    · cases ha
    · cases h
    · cases h
  | some reason =>
    refine ⟨rfl, fun reason h => ?_, fun _ => rfl, fun _ a ha => ?_, fun outcome h => ?_,
      fun outcome h _ => ?_⟩
    · cases h
    · cases ha
    · cases h
      exact .inl (.refused rfl rfl)
    · cases h
      rfl

theorem answersOf_concat (past : List SearchInput) (input : SearchInput) :
    answersOf (past ++ [input]) = answersOf past ++ answersOf [input] :=
  List.filterMap_append

theorem answersOf_concat_of_nil {input : SearchInput} (hinput : answersOf [input] = []) :
    answersOf (past ++ [input]) = answersOf past := by
  rw [answersOf_concat, hinput, List.append_nil]

/-- An input that is no answer and stops nothing, and moves the loop between its waits. -/
theorem Searched.move (h : Searched platform parent past s) {input : SearchInput}
    {phase : SearchPhase}
    (hinput : answersOf [input] = []) (hbefore : ∀ outcome, s.phase ≠ .ended outcome)
    (hphase : phase ≠ .delaying) (hafter : ∀ outcome, phase ≠ .ended outcome) :
    Searched platform parent (past ++ [input]) { s with phase } := by
  have hanswers : answersOf (past ++ [input]) = answersOf past := answersOf_concat_of_nil hinput
  refine ⟨?_, fun reason hreason => ?_, fun hdelaying => absurd hdelaying hphase, fun _ => ?_,
    fun outcome houtcome => absurd houtcome (hafter outcome), fun outcome hraced hstopped => ?_⟩
  · rw [hanswers]
    exact h.saw
  · obtain ⟨⟨stop, hstop, hstopped⟩, hraced⟩ := h.stopped reason hreason
    exact ⟨⟨stop, List.mem_append_left _ hstop, hstopped⟩, hraced⟩
  · rw [hanswers]
    exact h.running hbefore
  · exact absurd (h.raced outcome hraced hstopped) (hbefore outcome)

/-- The loop has failed on an answer. -/
theorem searched_failed {answer : Except ThrownError Text} {error : ThrownError}
    (h : Searched platform parent past s) (hbefore : ∀ outcome, s.phase ≠ .ended outcome)
    (houtcome : outcomeOf platform answer = .error error) {saw : Bool}
    (hsaw : saw = (s.sawValidTargetList || isTargetList platform answer)) :
    Searched platform parent (past ++ [.answered answer])
      (failed error { s with sawValidTargetList := saw }) := by
  have hanswers : answersOf (past ++ [.answered answer]) = answersOf past ++ [answer] :=
    answersOf_concat past _
  have hany : saw = (answersOf (past ++ [.answered answer])).any (isTargetList platform) := by
    rw [hsaw, hanswers, List.any_append, h.saw]
    simp
  have hstopped : ∀ reason, s.stopped = some reason →
      (∃ input ∈ past ++ [.answered answer], input.stop? = some reason) ∧
        s.raced = some (.error (abortedError reason)) := by
    intro reason hreason
    obtain ⟨⟨stop, hstop, hinput⟩, hraced⟩ := h.stopped reason hreason
    exact ⟨⟨stop, List.mem_append_left _ hstop, hinput⟩, hraced⟩
  have hraced : ∀ outcome, s.raced = some outcome → s.stopped ≠ none :=
    fun outcome houtcome hnone => hbefore outcome (h.raced outcome houtcome hnone)
  have hretried : isRetried error = true →
      ∀ a ∈ answersOf (past ++ [.answered answer]), Retried platform a := by
    intro hretry a ha
    rw [hanswers, List.mem_append, List.mem_singleton] at ha
    rcases ha with ha | rfl
    · exact h.running hbefore a ha
    · exact ⟨error, houtcome, hretry⟩
  unfold failed
  split_ifs with hretry
  · -- The error is thrown on.
    refine ⟨hany, hstopped, fun hdelaying => ?_, fun hrunning => absurd rfl (hrunning _), ?_, ?_⟩
    · cases hdelaying
    · intro outcome hended
      obtain rfl : Except.error error = outcome := SearchPhase.ended.inj hended
      rw [← houtcome]
      refine .inl (.answered hanswers (h.running hbefore) ?_)
      rintro ⟨error', herror', hretry'⟩
      obtain rfl := Except.error.inj (houtcome.symm.trans herror')
      simp [hretry'] at hretry
    · intro outcome houtcome' hnone
      exact absurd hnone (hraced outcome houtcome')
  · have hretry : isRetried error = true := by simpa using hretry
    split
    · next reason hreason =>
      -- The signal was stopped while the client was at work: the delay throws.
      refine ⟨hany, hstopped, fun hdelaying => ?_, fun hrunning => absurd rfl (hrunning _), ?_, ?_⟩
      · cases hdelaying
      · intro outcome hended
        exact .inr ⟨reason, hreason, (SearchPhase.ended.inj hended).symm⟩
      · intro outcome _ hnone
        exact absurd (hreason.symm.trans hnone) (by simp)
    · next hreason =>
      refine ⟨hany, hstopped, fun _ => hreason, fun _ => hretried hretry,
        fun outcome hended => ?_, ?_⟩
      · cases hended
      · intro outcome houtcome' _
        exact absurd hreason (hraced outcome houtcome')

theorem searched_answered {answer : Except ThrownError Text} (h : Searched platform parent past s)
    (hbefore : ∀ outcome, s.phase ≠ .ended outcome) :
    Searched platform parent (past ++ [.answered answer]) (answered platform answer s) := by
  unfold answered
  cases htargets : targetsOf platform answer with
  | error error =>
    have hlist : isTargetList platform answer = false := by rw [isTargetList, htargets]; rfl
    exact searched_failed h hbefore (by rw [outcomeOf, htargets]; rfl)
      (by rw [hlist, Bool.or_false])
  | ok targets =>
    have hlist : isTargetList platform answer = true := by rw [isTargetList, htargets]; rfl
    have houtcome : outcomeOf platform answer =
      selectPrimaryChatGptTarget platform.url targets := by
      rw [outcomeOf, htargets]
      rfl
    dsimp only
    cases hselected : selectPrimaryChatGptTarget platform.url targets with
    | error error =>
      exact searched_failed h hbefore (houtcome.trans hselected) (by rw [hlist, Bool.or_true])
    | ok target =>
      have hanswers : answersOf (past ++ [.answered answer]) = answersOf past ++ [answer] :=
        answersOf_concat past _
      -- A target was chosen: the loop ends, and the last answer is what decided it.
      refine ⟨?_, fun reason hreason => ?_, fun hdelaying => ?_,
        fun hrunning => absurd rfl (hrunning _), ?_, fun outcome hraced hnone =>
          absurd (h.raced outcome hraced hnone) (hbefore outcome)⟩
      · rw [hanswers, List.any_append]
        simp [hlist]
      · obtain ⟨⟨stop, hstop, hinput⟩, hraced⟩ := h.stopped reason hreason
        exact ⟨⟨stop, List.mem_append_left _ hstop, hinput⟩, hraced⟩
      · cases hdelaying
      · intro outcome hended
        obtain rfl : Except.ok target = outcome := SearchPhase.ended.inj hended
        rw [← hselected, ← houtcome]
        refine .inl (.answered hanswers (h.running hbefore) ?_)
        rintro ⟨error, herror, -⟩
        cases (houtcome.trans hselected).symm.trans herror

/-- A stop, by the deadline or the caller. -/
theorem searched_stop {input : SearchInput} {reason : ThrownError}
    (h : Searched platform parent past s) (hinput : input.stop? = some reason) :
    Searched platform parent (past ++ [input]) (stop reason s) := by
  have hanswers : answersOf (past ++ [input]) = answersOf past := by
    refine answersOf_concat_of_nil ?_
    cases input <;> first | rfl | cases hinput
  have hstopped : ∀ reason, s.stopped = some reason →
      (∃ input' ∈ past ++ [input], input'.stop? = some reason) ∧
        s.raced = some (.error (abortedError reason)) := by
    intro reason hreason
    obtain ⟨⟨stop, hstop, hstopped⟩, hraced⟩ := h.stopped reason hreason
    exact ⟨⟨stop, List.mem_append_left _ hstop, hstopped⟩, hraced⟩
  unfold stop
  split
  · next hraced hnone =>
    -- The first stop. Only a delay rejects with it; a request that is under way goes on.
    refine ⟨by rw [hanswers]; exact h.saw, fun reason' hreason => ?_,
      fun hdelaying => ?_, ?_, ?_, ?_⟩
    · obtain rfl := Option.some.inj hreason
      exact ⟨⟨input, List.mem_append_right _ List.mem_cons_self, hinput⟩, rfl⟩
    · revert hdelaying
      dsimp only
      split
      · intro hended
        cases hended
      · next hphase => exact fun hdelaying => absurd hdelaying hphase
    · rw [hanswers]
      intro hrunning a ha
      refine h.running (fun outcome hended => hrunning outcome ?_) a ha
      dsimp only
      rw [hended]
    · rw [hanswers]
      intro outcome hended
      revert hended
      dsimp only
      split
      · intro hended
        exact .inr ⟨reason, rfl, (SearchPhase.ended.inj hended).symm⟩
      · intro hended
        rcases h.ended outcome hended with hdecides | ⟨reason', hreason', -⟩
        · exact .inl hdecides
        · exact absurd (hreason'.symm.trans hnone) (by simp)
    · intro outcome _ hnone'
      cases hnone'
  -- A later stop finds the signal stopped or the race over, and changes nothing.
  · exact ⟨by rw [hanswers]; exact h.saw, hstopped, h.delaying, by rw [hanswers]; exact h.running,
      by rw [hanswers]; exact h.ended, h.raced⟩

/-- An input that is no answer and leaves the loop as it is. -/
theorem Searched.same (h : Searched platform parent past s) {input : SearchInput}
    (hinput : answersOf [input] = []) (hsaw : s'.sawValidTargetList = s.sawValidTargetList)
    (hphase : s'.phase = s.phase) (hstopped : s'.stopped = s.stopped)
    (hraced : s'.raced = s.raced ∨ s.raced = none ∧ ∃ outcome, s'.raced = some outcome ∧
      s.phase = .ended outcome) :
    Searched platform parent (past ++ [input]) s' := by
  have hanswers : answersOf (past ++ [input]) = answersOf past := answersOf_concat_of_nil hinput
  refine ⟨by rw [hanswers, hsaw]; exact h.saw, fun reason hreason => ?_, ?_, ?_, ?_,
    fun outcome houtcome hnone => ?_⟩
  · rw [hstopped] at hreason
    obtain ⟨⟨stop, hstop, hinput'⟩, hlost⟩ := h.stopped reason hreason
    refine ⟨⟨stop, List.mem_append_left _ hstop, hinput'⟩, ?_⟩
    rcases hraced with hsame | ⟨hnone, -⟩
    · rw [hsame]
      exact hlost
    · cases hnone.symm.trans hlost
  · rw [hphase, hstopped]
    exact h.delaying
  · rw [hphase, hanswers]
    exact h.running
  · rw [hphase, hanswers, hstopped]
    exact h.ended
  · rw [hstopped] at hnone
    rw [hphase]
    rcases hraced with hsame | ⟨-, outcome', houtcome', hended⟩
    · exact h.raced outcome (hsame ▸ houtcome) hnone
    · rw [hended, Option.some.inj (houtcome'.symm.trans houtcome)]

theorem Searched.step {input : SearchInput} (h : Searched platform parent past s)
    (hstep : s.step platform input = some s') : Searched platform parent (past ++ [input]) s' := by
  -- The loop has not ended where it is in one of its other phases.
  have hnot : ∀ {phase : SearchPhase}, s.phase = phase → (∀ outcome, phase ≠ .ended outcome) →
      ∀ outcome, s.phase ≠ .ended outcome := by
    rintro phase rfl hphase
    exact hphase
  cases input with
  | start =>
    simp only [TargetSearch.step] at hstep
    split at hstep
    · next hphase =>
      obtain rfl := Option.some.inj hstep
      exact h.move rfl (hnot hphase (by simp)) (by simp) (by simp)
    · cases hstep
  | answered answer =>
    simp only [TargetSearch.step] at hstep
    split at hstep
    · next hphase =>
      obtain rfl := Option.some.inj hstep
      exact searched_answered h (hnot hphase (by simp))
    · cases hstep
  | timer =>
    simp only [TargetSearch.step] at hstep
    split at hstep
    · next hphase =>
      obtain rfl := Option.some.inj hstep
      exact h.move rfl (hnot hphase (by simp)) (by simp) (by simp)
    · cases hstep
  | resume =>
    simp only [TargetSearch.step] at hstep
    split at hstep
    · next hphase =>
      obtain rfl := Option.some.inj hstep
      exact h.move rfl (hnot hphase (by simp)) (by simp) (by simp)
    · cases hstep
  | deadline =>
    obtain rfl := Option.some.inj hstep
    exact searched_stop h rfl
  | aborted reason =>
    obtain rfl := Option.some.inj hstep
    exact searched_stop h rfl
  | finish =>
    simp only [TargetSearch.step, finish] at hstep
    split at hstep
    · next outcome hphase hnone =>
      obtain rfl := Option.some.inj hstep
      exact h.same rfl rfl rfl rfl (.inr ⟨hnone, outcome, rfl, hphase⟩)
    · cases hstep
  | settle =>
    simp only [TargetSearch.step, settle] at hstep
    split at hstep
    · obtain rfl := Option.some.inj hstep
      exact h.same rfl rfl rfl rfl (.inl rfl)
    · cases hstep

/-- The run lemma. -/
theorem searched_run (hrun : Machine.exec (step platform) (initial parent) past = some s) :
    Searched platform parent past s :=
  Machine.exec_history searched_initial (fun _ _ _ _ _ h hstep => h.step hstep) hrun

/-- What the deadline and the caller stop the signal with is thrown as it is. -/
theorem abortedError_stop {input : SearchInput} {reason : ThrownError}
    (hinput : input.stop? = some reason) : abortedError (some reason) = reason := by
  cases input with
  | deadline =>
    obtain rfl := Option.some.inj hinput
    rfl
  | aborted cause =>
    obtain rfl := Option.some.inj hinput
    cases cause <;> rfl
  | _ => cases hinput

/-- The caller gets what the search has come to when it settles: what the last answer decided, those
before it having been tried again, or the error of a stop. A timeout is told as a target that was
not found if a target list has come by then, and as an endpoint that did not answer if none has. -/
theorem search_law
    (hrun : Machine.exec (step platform) (initial parent) (past ++ [.settle]) = some s) :
    ∃ outcome,
      s.result =
        some (concludeSearch ((answersOf past).any (isTargetList platform)) outcome) ∧
      (Decides platform parent (answersOf past) outcome ∨
        ∃ input ∈ past, ∃ reason, input.stop? = some reason ∧ outcome = .error reason) := by
  obtain ⟨before, hbefore, hlast⟩ := Machine.exec_append_eq_some.mp hrun
  obtain ⟨after, hstep, hafter⟩ := Machine.exec_cons_eq_some.mp hlast
  obtain rfl := Option.some.inj hafter
  have h := searched_run hbefore
  simp only [step, settle] at hstep
  split at hstep
  · next outcome hraced hunsettled =>
    obtain rfl := Option.some.inj hstep
    refine ⟨outcome, by rw [h.saw], ?_⟩
    cases hstopped : before.stopped with
    | none =>
      rcases h.ended outcome (h.raced outcome hraced hstopped) with hdecides | ⟨reason, hreason, -⟩
      · exact .inl hdecides
      · cases hreason.symm.trans hstopped
    | some reason =>
      obtain ⟨⟨input, hinput, hreason⟩, hlost⟩ := h.stopped reason hstopped
      refine .inr ⟨input, hinput, reason, hreason, ?_⟩
      rw [Option.some.inj (hraced.symm.trans hlost), abortedError_stop hreason]
  · cases hstep

/-- The deadline passes after the endpoint did not answer. -/
theorem search_law_deadline : ∃ s,
    Machine.exec (step .plain) (initial none)
        ([.start, .answered (.error (.ofCode .cdpEndpointUnavailable)), .deadline] ++ [.settle]) =
      some s ∧ ∃ outcome, s.result = some (concludeSearch
        ((answersOf [.start, .answered (.error (.ofCode .cdpEndpointUnavailable)), .deadline]).any
          (isTargetList .plain)) outcome) := by
  refine ⟨_, rfl, ?_⟩
  have hrun : Machine.exec (step .plain) (initial none)
    ([.start, .answered (.error (.ofCode .cdpEndpointUnavailable)), .deadline] ++ [.settle]) =
      some _ := rfl
  obtain ⟨outcome, hresult, -⟩ := search_law hrun
  exact ⟨outcome, hresult⟩

/-! ## After a stop -/

/-- The input sends a request to the client. -/
def isRequest : SearchInput → Bool
  | .start | .resume => true
  | _ => false

/-- The requests that a stopped search can still send. -/
def left (s : TargetSearch) : ℕ :=
  match s.phase with
  | .called | .resuming => 1
  | _ => 0

/-- The race is over: the signal was stopped or the loop has ended, and no delay is running. -/
structure Over (s : TargetSearch) : Prop where
  raced : s.raced ≠ none
  stopped : s.stopped ≠ none ∨ ∃ outcome, s.phase = .ended outcome
  phase : s.phase ≠ .delaying

theorem Over.stopped_of_phase (h : Over s) (hphase : ∀ outcome, s.phase ≠ .ended outcome) :
    s.stopped ≠ none :=
  h.stopped.resolve_right fun hended => hended.elim hphase

theorem over_failed {error : ThrownError} (hraced : s.raced ≠ none) (hstopped : s.stopped ≠ none) :
    Over (failed error s) ∧ left (failed error s) = 0 := by
  unfold failed
  split_ifs
  · exact ⟨⟨hraced, .inr ⟨_, rfl⟩, by simp⟩, rfl⟩
  · split
    · exact ⟨⟨hraced, .inr ⟨_, rfl⟩, by simp⟩, rfl⟩
    · next hnone => exact absurd hnone hstopped

theorem over_answered {answer : Except ThrownError Text} (hraced : s.raced ≠ none)
    (hstopped : s.stopped ≠ none) :
    Over (answered platform answer s) ∧ left (answered platform answer s) = 0 := by
  unfold answered
  split
  · exact over_failed hraced hstopped
  · dsimp only
    split
    · exact over_failed hraced hstopped
    · exact ⟨⟨hraced, .inr ⟨_, rfl⟩, by simp⟩, rfl⟩

theorem Over.stop_eq (h : Over s) (reason : ThrownError) : stop reason s = s := by
  unfold stop
  split
  · next hnone _ => exact absurd hnone h.raced
  · rfl

/-- One step of a stopped search: a request is one less to send. -/
theorem Over.step {input : SearchInput} (h : Over s) (hstep : s.step platform input = some s') :
    Over s' ∧ left s' + (isRequest input).toNat ≤ left s := by
  cases input with
  | start =>
    simp only [TargetSearch.step] at hstep
    split at hstep
    · next hphase =>
      obtain rfl := Option.some.inj hstep
      refine ⟨⟨h.raced, .inl (h.stopped_of_phase (by simp [hphase])), by simp⟩, ?_⟩
      rw [left, left, hphase]
      exact Nat.le_refl 1
    · cases hstep
  | answered answer =>
    -- The loop sees the stop when the delay starts, and sends nothing more.
    simp only [TargetSearch.step] at hstep
    split at hstep
    · next hphase =>
      obtain rfl := Option.some.inj hstep
      obtain ⟨hover, hleft⟩ := over_answered h.raced (h.stopped_of_phase (by simp [hphase]))
      exact ⟨hover, by rw [hleft]; exact Nat.zero_le _⟩
    · cases hstep
  | timer =>
    -- A stopped search is never delaying.
    simp only [TargetSearch.step] at hstep
    split at hstep
    · next hphase => exact absurd hphase h.phase
    · cases hstep
  | resume =>
    simp only [TargetSearch.step] at hstep
    split at hstep
    · next hphase =>
      obtain rfl := Option.some.inj hstep
      refine ⟨⟨h.raced, .inl (h.stopped_of_phase (by simp [hphase])), by simp⟩, ?_⟩
      rw [left, left, hphase]
      exact Nat.le_refl 1
    · cases hstep
  | deadline =>
    obtain rfl := Option.some.inj hstep
    rw [h.stop_eq]
    exact ⟨h, Nat.le_refl _⟩
  | aborted reason =>
    obtain rfl := Option.some.inj hstep
    rw [h.stop_eq]
    exact ⟨h, Nat.le_refl _⟩
  | finish =>
    simp only [TargetSearch.step, finish] at hstep
    split at hstep
    · next hnone => exact absurd hnone h.raced
    · cases hstep
  | settle =>
    simp only [TargetSearch.step, settle] at hstep
    split at hstep
    · obtain rfl := Option.some.inj hstep
      exact ⟨⟨h.raced, h.stopped, h.phase⟩, Nat.le_refl _⟩
    · cases hstep

theorem Over.run {inputs : List SearchInput} (h : Over s)
    (hrun : Machine.exec (TargetSearch.step platform) s inputs = some s') :
    Over s' ∧ left s' + inputs.countP isRequest ≤ left s := by
  induction inputs generalizing s with
  | nil =>
    obtain rfl := Option.some.inj hrun
    exact ⟨h, Nat.le_refl _⟩
  | cons input inputs ih =>
    obtain ⟨next, hstep, hrest⟩ := Machine.exec_cons_eq_some.mp hrun
    obtain ⟨hnext, hleft⟩ := h.step hstep
    obtain ⟨hover, hrestLeft⟩ := ih hnext hrest
    refine ⟨hover, ?_⟩
    rw [List.countP_cons]
    have htoNat : (if isRequest input = true then 1 else 0) = (isRequest input).toNat := by
      cases isRequest input <;> rfl
    omega

/-- A search is over once its signal has been stopped. -/
theorem over_stop (h : Searched platform parent past s) (reason : ThrownError) :
    Over (stop reason s) := by
  unfold stop
  split
  · refine ⟨by simp, .inl (by simp), ?_⟩
    dsimp only
    split
    · simp
    · next hphase => exact hphase
  · next hnot =>
    cases hraced : s.raced with
    | none =>
      cases hstopped : s.stopped with
      | none => exact absurd hstopped (hnot hraced)
      | some reason' => cases hraced.symm.trans (h.stopped reason' hstopped).2
    | some outcome =>
      refine ⟨by simp [hraced], ?_, fun hdelaying => ?_⟩
      · cases hstopped : s.stopped with
        | none => exact .inr ⟨outcome, h.raced outcome hraced hstopped⟩
        | some reason' => exact .inl (by simp)
      · cases hdelaying.symm.trans (h.raced outcome hraced (h.delaying hdelaying))

/-- A stop always lets the caller go, whatever the client does: the race is over, and at most one
more request is sent. -/
theorem stop_law {input : SearchInput} {reason : ThrownError} {future : List SearchInput}
    (hinput : input.stop? = some reason)
    (hrun : Machine.exec (step platform) (initial parent) (past ++ input :: future) = some s) :
    s.raced ≠ none ∧ future.countP isRequest ≤ 1 := by
  obtain ⟨before, hbefore, hlast⟩ := Machine.exec_append_eq_some.mp hrun
  obtain ⟨stopped, hstep, hfuture⟩ := Machine.exec_cons_eq_some.mp hlast
  have hstopped : stopped = stop reason before := by
    cases input with
    | deadline => rw [← Option.some.inj hinput]; exact (Option.some.inj hstep).symm
    | aborted cause => rw [← Option.some.inj hinput]; exact (Option.some.inj hstep).symm
    | _ => cases hinput
  obtain ⟨hover, hleft⟩ := (hstopped ▸ over_stop (searched_run hbefore) reason :
    Over stopped).run hfuture
  refine ⟨hover.raced, ?_⟩
  have hone : left stopped ≤ 1 := by
    unfold left
    split <;> simp
  omega

/-- The deadline passes while the loop goes on after a delay. -/
theorem stop_law_deadline : ∃ s : TargetSearch,
    Machine.exec (step .plain) (initial none)
        ([.start, .answered (.error (.ofCode .cdpEndpointUnavailable)), .timer] ++
          .deadline :: [.resume]) = some s ∧ s.raced ≠ none := by
  refine ⟨_, rfl, ?_⟩
  have hrun : Machine.exec (step .plain) (initial none)
    ([.start, .answered (.error (.ofCode .cdpEndpointUnavailable)), .timer] ++
      .deadline :: [.resume]) = some _ := rfl
  exact (stop_law rfl hrun).1

end TargetSearch

end Threadwire
