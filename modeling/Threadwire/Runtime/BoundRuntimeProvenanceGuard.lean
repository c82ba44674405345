import Mathlib.Algebra.Order.Ring.Rat
import Mathlib.Data.Nat.Cast.Order.Basic
import Threadwire.Cdp.BoundCdpSessionManager
import Threadwire.Effect.Company
import Threadwire.Effect.Conduct
import Threadwire.Effect.Shadow
import Threadwire.Machine.Runs

/-!
# The provenance guard and its diagnostics

`runtime/BoundRuntimeProvenanceGuard.ts`: `bind` and `assertCurrent` observe the runtime, the
endpoint and the runtime again. With a sink for diagnostics they also keep a result for each of the
three stages and emit a report, at the end of the operation or at once when the signal aborts during
a stage.

The guard shares with the rest of the program only its requests and its outcome: with the sink it
makes the same requests and has the same outcome as without.
-/

namespace Threadwire

/-- `BOUND_EXISTING_PROVENANCE_DIAGNOSTIC_SCHEMA`. -/
def BOUND_EXISTING_PROVENANCE_DIAGNOSTIC_SCHEMA : String :=
  "BOUND_EXISTING_PROVENANCE_DIAGNOSTIC_V1"

/-- `RuntimeProvenanceDiagnosticOutcome`, and `RUNNING`. -/
inductive StageOutcome where
  | PASS
  | FAIL
  | TIMEOUT
  | NOT_REACHED
  | RUNNING
deriving DecidableEq, Repr

/-- `RuntimeProvenanceDiagnosticErrorClass`. -/
inductive DiagnosticErrorClass where
  | code (code : ThreadwireErrorCode)
  | UNCLASSIFIED_ERROR
deriving DecidableEq, Repr

/-- `classifyError`; every code is a safe one. A value that is no `ThreadwireError` may be no error
at all. -/
def classifyError (error : Option ThrownError) : DiagnosticErrorClass :=
  match error with
  | some ⟨⟨.threadwire code, _⟩, _⟩ => .code code
  | _ => .UNCLASSIFIED_ERROR

/-- `MutableStageResult`. -/
structure StageResult where
  stage : GuardStage
  startElapsedMs : Option Rat := none
  finishElapsedMs : Option Rat := none
  outcome : StageOutcome := .NOT_REACHED
  errorClass : Option DiagnosticErrorClass := none
deriving DecidableEq, Repr

/-- `RuntimeProvenanceDiagnosticReport`. -/
structure DiagnosticReport where
  schema : String := BOUND_EXISTING_PROVENANCE_DIAGNOSTIC_SCHEMA
  operation : String := "BOUND_EXISTING_PROVENANCE_RCA"
  guardOperation : RuntimeProvenanceGuardOperation
  operationSequence : ℕ
  leaseGeneration : ℕ
  expectedPid : ℕ
  stages : List StageResult
deriving DecidableEq, Repr

/-- What the guard asks of the runtime and of the endpoint. -/
inductive GuardRequest where
  | assertRuntimeLeaseCurrentObserved (expectedLease : RuntimeLease)
  | bindOwnedEndpoint (expectedLease : RuntimeLease)
  | assertOwnedEndpointCurrent (expectedLease : RuntimeLease)
deriving DecidableEq, Repr

/-- Every request resolves or rejects. -/
abbrev GuardRequest.Answer (_ : GuardRequest) : Type := Except ThrownError Unit

/-- An operation of the guard, and what it is called with. -/
structure GuardCall where
  guardOperation : RuntimeProvenanceGuardOperation
  expectedLease : RuntimeLease
  signal : Bool
  monotonicNow : ℕ → Rat

/-- What an operation keeps for its report; `asked` is how often the clock has been read, and
`aborted` the reason of the signal. -/
structure GuardDiagnostics where
  operationSequence : ℕ := 0
  asked : ℕ := 0
  operationStartedAt : Rat := 0
  results : List StageResult := []
  currentStageIndex : Option ℕ := none
  reportEmitted : Bool := false
  listening : Bool := false
  aborted : Option (Option ThrownError) := none
  reports : List DiagnosticReport := []

namespace GuardCall

/-- The request of a stage. -/
def request (call : GuardCall) : GuardStage → GuardRequest
  | .initialRuntime | .finalRuntime => .assertRuntimeLeaseCurrentObserved call.expectedLease
  | .endpoint =>
    match call.guardOperation with
    | .BIND => .bindOwnedEndpoint call.expectedLease
    | .ASSERT_CURRENT => .assertOwnedEndpointCurrent call.expectedLease

end GuardCall

namespace GuardDiagnostics

variable (call : GuardCall)

/-- `elapsed`. -/
def elapsed (w : GuardDiagnostics) : Rat := max 0 (call.monotonicNow w.asked - w.operationStartedAt)

/-- `isTimeoutSignal`. -/
def isTimeoutSignal (w : GuardDiagnostics) : Bool :=
  match w.aborted with
  | some (some reason) => reason.isInstance .operationTimeout
  | _ => false

/-- `emitReport`; what the sink does with the report, or throws, is nothing to the guard. -/
def emitReport (w : GuardDiagnostics) : GuardDiagnostics :=
  if w.reportEmitted then w
  else
    { w with
      reportEmitted := true
      reports := w.reports ++ [{
        guardOperation := call.guardOperation
        operationSequence := w.operationSequence
        leaseGeneration := call.expectedLease.generation
        expectedPid := call.expectedLease.identity.pid
        stages := w.results.map fun result => { result with
          outcome := if result.outcome = .RUNNING then .FAIL else result.outcome } }] }

/-- The result of a stage that has failed with this error, or that the abort has struck. -/
def failStage (w : GuardDiagnostics) (result : StageResult) (error : Option ThrownError) :
    StageResult :=
  { result with
    finishElapsedMs := some (w.elapsed call)
    outcome := if w.isTimeoutSignal then .TIMEOUT else .FAIL
    errorClass := some (classifyError error) }

/-- `onAbort`. -/
def onAbort (w : GuardDiagnostics) (reason : Option ThrownError) : GuardDiagnostics :=
  if w.reportEmitted then w
  else
    match w.currentStageIndex with
    | none => w
    | some index =>
      match w.results[index]? with
      | none => w
      | some current =>
        if current.outcome = .RUNNING then
          emitReport call { w with
            results := w.results.set index (w.failStage call current reason)
            asked := w.asked + 1 }
        else w

/-- The signal aborts. -/
def abort (w : GuardDiagnostics) (reason : Option ThrownError) : GuardDiagnostics :=
  if !call.signal || w.aborted.isSome then w
  else
    let w := { w with aborted := some reason }
    if w.listening then onAbort call { w with listening := false } reason else w

/-- The stages. -/
def stages : List GuardStage := [.initialRuntime, .endpoint, .finalRuntime]

/-- What `runObserved` begins with. -/
def enter (w : GuardDiagnostics) : GuardDiagnostics :=
  { w with
    operationStartedAt := call.monotonicNow w.asked
    asked := w.asked + 1
    results := stages.map fun stage => { stage }
    operationSequence := w.operationSequence + 1
    currentStageIndex := none
    reportEmitted := false
    listening := call.signal }

/-- A stage begins. -/
def beginStage (w : GuardDiagnostics) (index : ℕ) : GuardDiagnostics :=
  { w with
    currentStageIndex := some index
    results := w.results.modify index fun result =>
      { result with startElapsedMs := some (w.elapsed call), outcome := .RUNNING }
    asked := w.asked + 1 }

/-- A stage has resolved. -/
def passStage (w : GuardDiagnostics) (index : ℕ) : GuardDiagnostics :=
  { w with
    results := w.results.modify index fun result =>
      { result with finishElapsedMs := some (w.elapsed call), outcome := .PASS }
    asked := w.asked + 1 }

/-- A stage has rejected. -/
def rejectStage (w : GuardDiagnostics) (index : ℕ) (error : ThrownError) : GuardDiagnostics :=
  if w.reportEmitted then w
  else
    emitReport call { w with
      results := w.results.modify index fun result => w.failStage call result (some error)
      asked := w.asked + 1 }

end GuardDiagnostics

namespace BoundRuntimeProvenanceGuard

open Coroutine GuardDiagnostics

/-- The operations of the guard, over what they keep. -/
abbrev GuardM (σ : Type) := Coroutine σ GuardRequest GuardRequest.Answer ThrownError

variable (call : GuardCall)

/-- `bind` and `assertCurrent` without a sink. -/
def runPlain : GuardM Unit Unit := do
  settle (← ask (call.request .initialRuntime))
  settle (← ask (call.request .endpoint))
  settle (← ask (call.request .finalRuntime))

/-- One stage of `runObserved`. -/
def runStage (index : ℕ) (stage : GuardStage) : GuardM GuardDiagnostics Unit := do
  modify (·.beginStage call index)
  let outcome ← ask (call.request stage)
  match outcome with
  | .error error =>
    modify (·.rejectStage call index error)
    settle (.error error)
  | .ok () => modify (·.passStage call index)

/-- `runObserved`. -/
def runObserved : GuardM GuardDiagnostics Unit := do
  modify (·.enter call)
  let outcome ← attempt do
    runStage call 0 .initialRuntime
    runStage call 1 .endpoint
    runStage call 2 .finalRuntime
    modify (·.emitReport call)
  modify fun w => { w with listening := false }
  settle outcome

end BoundRuntimeProvenanceGuard

/-! ## The system -/

open BoundRuntimeProvenanceGuard

/-- What happens to an operation: its request resolves or rejects, or the signal aborts. -/
inductive GuardInput where
  | settle (outcome : Except ThrownError Unit)
  | abort (reason : Option ThrownError)

/-- An operation of the guard with a sink. -/
structure ObservedGuard where
  diagnostics : GuardDiagnostics
  rest : GuardM GuardDiagnostics Unit

namespace ObservedGuard

variable (call : GuardCall)

/-- The operation acts until its next request. -/
def advance (w : GuardDiagnostics) (x : GuardM GuardDiagnostics Unit) : ObservedGuard :=
  ⟨(x.advance w).2, (x.advance w).1⟩

/-- The operation is called. -/
def start (w : GuardDiagnostics) : ObservedGuard := advance w (runObserved call)

/-- One step of the operation; `none` where the input cannot occur. -/
def step (s : ObservedGuard) : GuardInput → Option ObservedGuard
  | .settle outcome =>
    match s.rest with
    | .await _ resume => some (advance s.diagnostics (resume outcome))
    | _ => none
  | .abort reason => some { s with diagnostics := s.diagnostics.abort call reason }

end ObservedGuard

/-- One step of an operation without a sink. -/
def stepPlain (x : GuardM Unit Unit) (outcome : Except ThrownError Unit) :
    Option (GuardM Unit Unit) :=
  match x with
  | .await _ resume => some (resume outcome)
  | _ => none

/-- What the rest of the program sees of an operation. -/
inductive GuardView where
  | asks (request : GuardRequest)
  | ended (outcome : Except ThrownError Unit)

/-- Where an operation waits, or what it has come to. -/
def viewOf {σ : Type} : GuardM σ Unit → Option GuardView
  | .await request _ => some (.asks request)
  | .done outcome => some (.ended outcome)
  | .act _ _ => none

/-- The answers among the inputs. -/
def outcomesOf (inputs : List GuardInput) : List (Except ThrownError Unit) :=
  inputs.filterMap fun
    | .settle outcome => some outcome
    | .abort _ => none

/-! ## Diagnostics are not seen -/

section Transparency

open Coroutine

variable {call : GuardCall} {s t : ObservedGuard} {x y : GuardM Unit Unit}

/-- A stage with its report asks the same as one without. -/
theorem runStage_shadows (index : ℕ) (stage : GuardStage) : (runStage call index stage).Shadows
    (do settle (← ask (call.request stage)) : GuardM Unit Unit) := by
  refine shadows_modify_bind (Shadows.bind (shadows_ask _) fun outcome => ?_)
  cases outcome with
  | ok value => exact fun _ => rfl
  | error error => exact fun _ => rfl

/-- So does the whole operation. -/
theorem runObserved_shadows : (runObserved call).Shadows (runPlain call) := by
  refine shadows_modify_bind (Shadows.finally ?_ _)
  exact Shadows.bind (runStage_shadows 0 _) fun _ => Shadows.bind (runStage_shadows 1 _) fun _ =>
    (runStage_shadows 2 _).andModify _

/-- The two operations are seen alike. -/
theorem viewOf_shadows {x : GuardM GuardDiagnostics Unit} (h : x.Shadows y)
    (hx : ∀ move next, x ≠ .act move next) : viewOf x = viewOf y := by
  cases x with
  | done outcome =>
    obtain rfl : y = .done outcome := h
    rfl
  | act move next => exact absurd rfl (hx move next)
  | await request resume =>
    obtain ⟨resume', rfl, -⟩ := h
    rfl

/-- An operation with a sink and one without, at the same point. -/
structure Alongside (s : ObservedGuard) (y : GuardM Unit Unit) : Prop where
  shadows : s.rest.Shadows y
  halted : ∀ move next, s.rest ≠ .act move next

/-- Both act until their next request. -/
theorem alongside_advance {x : GuardM GuardDiagnostics Unit} (h : x.Shadows y)
    (w : GuardDiagnostics) :
    Alongside (ObservedGuard.advance w x) y :=
  ⟨h.advance w, advance_ne_act x w⟩

/-- The step lemma. -/
theorem Alongside.settle (h : Alongside s y) (outcome : Except ThrownError Unit) :
    (s.step call (.settle outcome) = none ∧ stepPlain y outcome = none) ∨
      ∃ t y', s.step call (.settle outcome) = some t ∧ stepPlain y outcome = some y' ∧
        Alongside t y' := by
  obtain ⟨w, x⟩ := s
  obtain ⟨hshadows, hhalted⟩ := h
  cases x with
  | done outcome' =>
    obtain rfl : y = .done outcome' := hshadows
    exact .inl ⟨rfl, rfl⟩
  | act move next => exact absurd rfl (hhalted move next)
  | await request resume =>
    obtain ⟨resume', rfl, hresume⟩ := hshadows
    exact .inr ⟨_, _, rfl, rfl, alongside_advance (hresume outcome) w⟩

/-- The run lemma. -/
theorem Alongside.exec (h : Alongside s y) (inputs : List GuardInput) :
    (Machine.exec (ObservedGuard.step call) s inputs).map (fun t => viewOf t.rest) =
      (Machine.exec stepPlain y (outcomesOf inputs)).map viewOf := by
  induction inputs generalizing s y with
  | nil => exact congrArg some (viewOf_shadows h.shadows h.halted)
  | cons input inputs ih =>
    rw [Machine.exec_cons]
    cases input with
    | abort reason =>
      exact @ih { s with diagnostics := s.diagnostics.abort call reason } y ⟨h.shadows, h.halted⟩
    | settle outcome =>
      have houtcomes : outcomesOf (.settle outcome :: inputs) = outcome :: outcomesOf inputs := rfl
      rw [houtcomes, Machine.exec_cons]
      rcases @Alongside.settle call s y h outcome with ⟨hs, hy⟩ | ⟨t, y', hs, hy, hnext⟩
      · rw [hs, hy]
        rfl
      · rw [hs, hy]
        exact ih hnext

/-- The rest of the program cannot tell whether the guard has a sink. -/
theorem diagnostics_transparent (call : GuardCall) (w : GuardDiagnostics)
    (inputs : List GuardInput) :
    (Machine.exec (ObservedGuard.step call) (ObservedGuard.start call w) inputs).map
        (fun t => viewOf t.rest) =
      (Machine.exec stepPlain (runPlain call) (outcomesOf inputs)).map viewOf :=
  (alongside_advance runObserved_shadows w).exec inputs

end Transparency

/-! ## What the sink is told -/

/-- What a result tells of its stage. -/
def StageResult.Accounted (result : StageResult) : Prop :=
  match result.outcome with
  | .PASS => result.startElapsedMs.isSome ∧ result.finishElapsedMs.isSome ∧ result.errorClass = none
  | .FAIL | .TIMEOUT =>
    result.startElapsedMs.isSome ∧ result.finishElapsedMs.isSome ∧ result.errorClass.isSome
  | .NOT_REACHED =>
    result.startElapsedMs = none ∧ result.finishElapsedMs = none ∧ result.errorClass = none
  | .RUNNING => False

/-- The times of a result. -/
def StageResult.times (result : StageResult) : List Rat :=
  result.startElapsedMs.toList ++ result.finishElapsedMs.toList

/-- A report of an operation: the call it is about, and each stage in its order and with its
times. -/
structure DiagnosticReport.Tells (call : GuardCall) (operationSequence : ℕ)
    (report : DiagnosticReport) : Prop where
  guardOperation : report.guardOperation = call.guardOperation
  operationSequence : report.operationSequence = operationSequence
  leaseGeneration : report.leaseGeneration = call.expectedLease.generation
  expectedPid : report.expectedPid = call.expectedLease.identity.pid
  stages : report.stages.map (·.stage) = GuardDiagnostics.stages
  accounted : ∀ result ∈ report.stages, result.Accounted
  ordered : (report.stages.flatMap (·.times)).Pairwise (· ≤ ·)

/-- Every stage has passed. -/
def AllPassed (results : List StageResult) : Prop := ∀ result ∈ results, result.outcome = .PASS

/-- The stages have passed until one that came to this outcome with this error, and the ones after
it were not reached. -/
def Struck (outcome : StageOutcome) (error : Option ThrownError) (results : List StageResult) :
    Prop :=
  ∃ passed struck rest, results = passed ++ struck :: rest ∧ AllPassed passed ∧
    struck.outcome = outcome ∧ struck.errorClass = some (classifyError error) ∧
    ∀ result ∈ rest, result.outcome = .NOT_REACHED

/-- The outcome of a stage that has not passed. -/
def GuardDiagnostics.strike (w : GuardDiagnostics) : StageOutcome :=
  if w.isTimeoutSignal then .TIMEOUT else .FAIL

section Telling

open Coroutine GuardDiagnostics

variable {call : GuardCall} {w u u' : GuardDiagnostics} {k : ℕ} {error : ThrownError}
  {results passed : List StageResult} {last : StageResult} {stage : GuardStage}
    {now time finish : Rat}
  {P : List StageResult → Prop} {reason : Option ThrownError}

/-- The results of the stages from `k` on, before they begin. -/
def unreached (k : ℕ) : List StageResult := (stages.drop k).map fun stage => { stage }

/-- The first of the results that are not reached. -/
theorem unreached_eq_cons (h : stages[k]? = some stage) :
    unreached k = { stage } :: unreached (k + 1) := by
  obtain ⟨hlt, rfl⟩ := List.getElem?_eq_some_iff.mp h
  rw [unreached, unreached, List.drop_eq_getElem_cons hlt, List.map_cons]

/-- One result in the middle is changed, and no other. -/
theorem modify_middle {α : Type} (l r : List α) (x : α) (f : α → α) :
    (l ++ x :: r).modify l.length f = l ++ f x :: r := by
  induction l with
  | nil => rfl
  | cons y l ih => exact congrArg (y :: ·) ih

/-! ### The results of the stages that have ended -/

/-- Results of the first stages, by the time `now`. -/
structure Accounts (results : List StageResult) (now : Rat) : Prop where
  inOrder : results.map (·.stage) = stages.take results.length
  accounted : ∀ result ∈ results, result.Accounted
  ordered : (results.flatMap (·.times)).Pairwise (· ≤ ·)
  past : ∀ time ∈ results.flatMap (·.times), time ≤ now

/-- Before the first stage there is nothing to account for. -/
theorem accounts_nil : Accounts [] now := ⟨rfl, by simp, by simp, by simp⟩

/-- What was accounted for by one time is by a later one. -/
theorem Accounts.later (h : Accounts results now) {later : Rat} (hle : now ≤ later) :
    Accounts results later :=
  ⟨h.inOrder, h.accounted, h.ordered, fun time hmem => (h.past time hmem).trans hle⟩

/-- One more stage has ended. -/
theorem Accounts.concat (h : Accounts results time)
    (hstage : stages[results.length]? = some last.stage)
    (haccounted : last.Accounted) (htimes : last.times = [time, finish]) (hle : time ≤ finish) :
    Accounts (results ++ [last]) finish := by
  have hflat : (results ++ [last]).flatMap (·.times) = results.flatMap (·.times)
    ++ [time, finish] := by
    rw [List.flatMap_append, List.flatMap_singleton, htimes]
  refine ⟨?_, ?_, ?_, ?_⟩
  · rw [List.map_append, h.inOrder, List.length_append, List.length_singleton, List.take_add_one,
      hstage]
    rfl
  · intro result hmem
    rcases List.mem_append.mp hmem with hold | hnew
    · exact h.accounted result hold
    · rw [List.mem_singleton.mp hnew]
      exact haccounted
  · rw [hflat, List.pairwise_append]
    refine ⟨h.ordered, by simpa using hle, fun earlier hmem later hlater => ?_⟩
    have hearlier := h.past earlier hmem
    rcases (List.mem_cons.trans (or_congr_right List.mem_singleton)).mp hlater with rfl | rfl
    · exact hearlier
    · exact hearlier.trans hle
  · rw [hflat]
    intro earlier hmem
    rcases List.mem_append.mp hmem with hold | hnew
    · exact (h.past earlier hold).trans hle
    · rcases (List.mem_cons.trans (or_congr_right List.mem_singleton)).mp hnew with rfl | rfl
      · exact hle
      · exact le_rfl

/-- A result that is not reached tells nothing but that. -/
theorem mem_unreached {result : StageResult} (h : result ∈ unreached k) :
    result.outcome = .NOT_REACHED ∧ result.Accounted ∧ result.times = [] := by
  obtain ⟨stage, -, rfl⟩ := List.mem_map.mp h
  exact ⟨rfl, ⟨rfl, rfl, rfl⟩, rfl⟩

/-- It has no times. -/
theorem flatMap_times_unreached : (unreached k).flatMap (·.times) = [] :=
  List.flatMap_eq_nil_iff.mpr fun _ h => (mem_unreached h).2.2

/-! ### The states of an operation -/

variable (call w) in
/-- No report has been emitted; the signal is as it was when the operation began. -/
structure Unreported (u : GuardDiagnostics) : Prop where
  reports : u.reports = w.reports
  reportEmitted : u.reportEmitted = false
  operationSequence : u.operationSequence = w.operationSequence + 1
  aborted : u.aborted = w.aborted
  listening : u.listening = call.signal

variable (call w) in
/-- The stage is about to begin. -/
def Before (k : ℕ) (u : GuardDiagnostics) : Prop :=
  Unreported call w u ∧ ∃ passed, passed.length = k ∧ AllPassed passed ∧
    Accounts passed (u.elapsed call) ∧ u.results = passed ++ unreached k

variable (call w) in
/-- The stage runs. -/
def During (k : ℕ) (u : GuardDiagnostics) : Prop :=
  Unreported call w u ∧ u.currentStageIndex = some k ∧ ∃ passed stage time, passed.length = k ∧
    AllPassed passed ∧ Accounts passed time ∧ time ≤ u.elapsed call ∧ stages[k]? = some stage ∧
    u.results = passed ++
      { stage, startElapsedMs := some time, outcome := .RUNNING } :: unreached (k + 1)

variable (call w) in
/-- There is a report, and its stages are as told. -/
def Told (P : List StageResult → Prop) (u : GuardDiagnostics) : Prop :=
  u.reportEmitted = true ∧ ∃ report, u.reports = w.reports ++ [report] ∧
    report.Tells call (w.operationSequence + 1) ∧ P report.stages

variable (call w) in
/-- The abort of the signal has struck, and there is a report of it. -/
def ToldAborted (u : GuardDiagnostics) : Prop :=
  call.signal = true ∧ w.aborted = none ∧ ∃ reason, u.aborted = some reason ∧
    Told call w (Struck u.strike reason) u

/-- A report does not change. -/
theorem Told.congr (h : Told call w P u) (hreports : u'.reports = u.reports)
    (hemitted : u'.reportEmitted = u.reportEmitted) : Told call w P u' := by
  obtain ⟨hset, report, hreport, htells⟩ := h
  exact ⟨hemitted.trans hset, report, hreports.trans hreport, htells⟩

/-- Nor does that of an abort. -/
theorem ToldAborted.congr (h : ToldAborted call w u) (hreports : u'.reports = u.reports)
    (hemitted : u'.reportEmitted = u.reportEmitted) (haborted : u'.aborted = u.aborted) :
    ToldAborted call w u' := by
  obtain ⟨hsignal, hfirst, reason, hreason, htold⟩ := h
  have hstrike : u'.strike = u.strike := by
    rw [strike, strike, isTimeoutSignal, isTimeoutSignal, haborted]
  exact ⟨hsignal, hfirst, reason, haborted.trans hreason, hstrike ▸ htold.congr hreports hemitted⟩

/-- The report of an operation whose stages have ended so far. -/
theorem told_emitReport (hreports : u.reports = w.reports) (hemitted : u.reportEmitted = false)
    (hsequence : u.operationSequence = w.operationSequence + 1) (haccounts : Accounts results now)
    (hresults : u.results = results ++ unreached results.length) (hP : P u.results) :
    Told call w P (u.emitReport call) := by
  have haccounted : ∀ result ∈ u.results, result.Accounted := by
    rw [hresults]
    intro result hmem
    rcases List.mem_append.mp hmem with hended | hnot
    · exact haccounts.accounted result hended
    · exact (mem_unreached hnot).2.1
  have hstages : u.results.map (·.stage) = stages := by
    have hrest : (unreached results.length).map (·.stage) = stages.drop results.length := by
      rw [unreached, List.map_map]
      exact List.map_id _
    rw [hresults, List.map_append, haccounts.inOrder, hrest, List.take_append_drop]
  have hordered : (u.results.flatMap (·.times)).Pairwise (· ≤ ·) := by
    rw [hresults, List.flatMap_append, flatMap_times_unreached, List.append_nil]
    exact haccounts.ordered
  -- No stage is running, so that the report has nothing to correct.
  have hmapped : u.results.map (fun result => { result with
      outcome := if result.outcome = .RUNNING then .FAIL else result.outcome }) = u.results := by
    refine (List.map_congr_left fun result hmem => ?_).trans (List.map_id _)
    have hnot : result.outcome ≠ .RUNNING := by
      intro hrunning
      have hresult := haccounted result hmem
      rw [StageResult.Accounted, hrunning] at hresult
      exact hresult
    rw [if_neg hnot]
    rfl
  rw [emitReport, hemitted, if_neg Bool.false_ne_true, hmapped]
  exact ⟨rfl, _, congrArg (· ++ _) hreports,
    ⟨rfl, hsequence, rfl, rfl, hstages, haccounted, hordered⟩, hP⟩

/-! ### The steps -/

/-- The clock does not go back. -/
theorem elapsed_mono (hclock : Monotone call.monotonicNow) (hasked : u.asked ≤ u'.asked)
    (hstarted : u'.operationStartedAt = u.operationStartedAt) :
    u.elapsed call ≤ u'.elapsed call := by
  rw [elapsed, elapsed, hstarted]
  exact max_le_max le_rfl (sub_le_sub_right (hclock hasked) _)

/-- The operation begins before its first stage. -/
theorem before_enter : Before call w 0 (w.enter call) :=
  ⟨⟨rfl, rfl, rfl, rfl, rfl⟩, [], rfl, by simp [AllPassed], accounts_nil, rfl⟩

/-- A stage begins. -/
theorem Before.begin (hclock : Monotone call.monotonicNow) (h : Before call w k u)
    (hstage : stages[k]? = some stage) : During call w k (u.beginStage call k) := by
  obtain ⟨hquiet, passed, hlength, hpassed, haccounts, hresults⟩ := h
  refine ⟨⟨hquiet.reports, hquiet.reportEmitted, hquiet.operationSequence, hquiet.aborted,
    hquiet.listening⟩, rfl, passed, stage, u.elapsed call, hlength, hpassed, haccounts,
    elapsed_mono hclock (Nat.le_succ _) rfl, hstage, ?_⟩
  show u.results.modify k _ = _
  rw [hresults, unreached_eq_cons hstage, ← hlength, modify_middle]

/-- It passes, and the next one may begin. -/
theorem During.pass (hclock : Monotone call.monotonicNow) (h : During call w k u) :
    Before call w (k + 1) (u.passStage call k) := by
  obtain ⟨hquiet, -, passed, stage, time, hlength, hpassed, haccounts, hle, hstage, hresults⟩ := h
  let last : StageResult := ⟨stage, some time, some (u.elapsed call), .PASS, none⟩
  have hlast : last.Accounted := ⟨rfl, rfl, rfl⟩
  refine ⟨⟨hquiet.reports, hquiet.reportEmitted, hquiet.operationSequence, hquiet.aborted,
    hquiet.listening⟩, passed ++ [last], ?_, ?_, ?_, ?_⟩
  · rw [List.length_append, hlength, List.length_singleton]
  · intro result hmem
    rcases List.mem_append.mp hmem with hold | hnew
    · exact hpassed result hold
    · rw [List.mem_singleton.mp hnew]
  · exact (haccounts.concat (hlength ▸ hstage) hlast rfl hle).later
      (elapsed_mono hclock (Nat.le_succ _) rfl)
  · show u.results.modify k _ = _
    rw [hresults, ← hlength, modify_middle, List.append_assoc]
    rfl

/-- A stage that is struck is told of. -/
theorem told_struck (hreports : u.reports = w.reports) (hemitted : u.reportEmitted = false)
    (hsequence : u.operationSequence = w.operationSequence + 1) (hpassed : AllPassed passed)
    (haccounts : Accounts passed time) (hle : time ≤ finish)
    (hstage : stages[passed.length]? = some stage)
    (hresults : u.results = passed ++
      ⟨stage, some time, some finish, u'.strike,
        some (classifyError reason)⟩ :: unreached (passed.length + 1)) :
    Told call w (Struck u'.strike reason) (u.emitReport call) := by
  let struck : StageResult := ⟨stage, some time, some finish, u'.strike,
    some (classifyError reason)⟩
  have hstruck : struck.Accounted := by
    show StageResult.Accounted ⟨stage, some time, some finish, u'.strike, _⟩
    rw [strike]
    split <;> exact ⟨rfl, rfl, rfl⟩
  refine told_emitReport hreports hemitted hsequence (haccounts.concat hstage hstruck rfl hle) ?_ ?_
  · rw [hresults, List.length_append, List.length_singleton, List.append_assoc]
    rfl
  · exact ⟨passed, struck, _, hresults, hpassed, rfl, rfl, fun result hmem =>
      (mem_unreached hmem).1⟩

/-- It rejects, and the report is emitted. -/
theorem During.reject (h : During call w k u) :
    Told call w (Struck w.strike (some error)) (u.rejectStage call k error) := by
  obtain ⟨hquiet, -, passed, stage, time, rfl, hpassed, haccounts, hle, hstage, hresults⟩ := h
  have hstrike : u.isTimeoutSignal = w.isTimeoutSignal := by
    rw [isTimeoutSignal, isTimeoutSignal, hquiet.aborted]
  rw [rejectStage, hquiet.reportEmitted, if_neg Bool.false_ne_true]
  refine told_struck hquiet.reports rfl hquiet.operationSequence hpassed haccounts hle hstage ?_
  show u.results.modify _ _ = _
  rw [hresults, modify_middle, failStage, hstrike]
  rfl

/-- What the abort does to the stage that runs. -/
theorem onAbort_eq {running : StageResult} {rest : List StageResult}
    (hemitted : u.reportEmitted = false)
    (hindex : u.currentStageIndex = some passed.length)
    (hresults : u.results = passed ++ running :: rest)
    (hrunning : running.outcome = .RUNNING) : u.onAbort call reason =
      emitReport call { u with
        results := passed ++ u.failStage call running reason :: rest
        asked := u.asked + 1 } := by
  have hat : u.results[passed.length]? = some running := by
    rw [hresults, List.getElem?_append_right le_rfl, Nat.sub_self]
    rfl
  have hset : u.results.set passed.length (u.failStage call running reason) =
      passed ++ u.failStage call running reason :: rest := by
    rw [hresults, List.set_append_right _ _ le_rfl, Nat.sub_self, List.set_cons_zero]
  rw [onAbort, hemitted, if_neg Bool.false_ne_true, hindex]
  show (match u.results[passed.length]? with | none => u | some current => _) = _
  rw [hat]
  show (if running.outcome = .RUNNING then _ else u) = _
  rw [if_pos hrunning, hset]

/-- The report is not the abort's business. -/
theorem emitReport_aborted : (u.emitReport call).aborted = u.aborted := by
  rw [emitReport]
  split <;> rfl

/-- A second abort is ignored, as is one of a call without a signal. -/
theorem abort_of_ignored (h : (!call.signal || u.aborted.isSome) = true) :
    u.abort call reason = u := by
  rw [GuardDiagnostics.abort, h, if_pos rfl]

/-- The first one is heard while the operation listens. -/
theorem abort_of_heard (hsignal : call.signal = true) (hfirst : u.aborted = none)
    (hlistening : u.listening = true) :
    u.abort call reason = onAbort call { u with aborted := some reason, listening := false }
      reason := by
  rw [GuardDiagnostics.abort, hsignal, hfirst]
  exact if_pos hlistening

/-- The signal aborts while a stage runs. -/
theorem During.abort (h : During call w k u) (reason : Option ThrownError) :
    During call w k (u.abort call reason) ∨ ToldAborted call w (u.abort call reason) := by
  cases hignored : !call.signal || u.aborted.isSome with
  | true =>
    rw [abort_of_ignored hignored]
    exact .inl h
  | false =>
    obtain ⟨hquiet, hindex, passed, stage, time, rfl, hpassed, haccounts, hle, hstage,
      hresults⟩ := h
    obtain ⟨hsignal, hfirst⟩ := Bool.or_eq_false_iff.mp hignored
    have hsignal : call.signal = true := by simpa using hsignal
    have hfirst : u.aborted = none := by simpa using hfirst
    -- The signal is heard: the running stage is struck, and the report goes out at once.
    let v : GuardDiagnostics := { u with aborted := some reason, listening := false }
    have hstruck : u.abort call reason = emitReport call { v with
        results := passed ++ v.failStage call ⟨stage, some time, none, .RUNNING, none⟩ reason ::
          unreached (passed.length + 1)
        asked := v.asked + 1 } :=
      (abort_of_heard hsignal hfirst (hquiet.listening.trans hsignal)).trans
        (@onAbort_eq call v passed reason _ _ hquiet.reportEmitted hindex hresults rfl)
    have htold : Told call w (Struck v.strike reason) (u.abort call reason) := by
      rw [hstruck]
      exact told_struck hquiet.reports hquiet.reportEmitted hquiet.operationSequence hpassed
        haccounts hle hstage rfl
    have haborted : (u.abort call reason).aborted = v.aborted := by
      rw [hstruck]
      exact emitReport_aborted
    have hstrike : (u.abort call reason).strike = v.strike := by
      rw [strike, strike, isTimeoutSignal, isTimeoutSignal, haborted]
    exact .inr ⟨hsignal, hquiet.aborted.symm.trans hfirst, reason, haborted, hstrike ▸ htold⟩

/-- An abort after the report leaves it, and is not heard once the operation has ended. -/
theorem abort_of_emitted (h : u.reportEmitted = true) :
    (u.abort call reason).reports = u.reports ∧
      (u.abort call reason).reportEmitted = u.reportEmitted ∧
      (u.listening = false → (u.abort call reason).listening = false) := by
  cases hignored : !call.signal || u.aborted.isSome with
  | true =>
    rw [abort_of_ignored hignored]
    exact ⟨rfl, rfl, id⟩
  | false =>
    cases hlistening : u.listening with
    | true =>
      obtain ⟨hsignal, hfirst⟩ := Bool.or_eq_false_iff.mp hignored
      rw [abort_of_heard (by simpa using hsignal) (by simpa using hfirst) hlistening, onAbort,
        if_pos h]
      exact ⟨rfl, rfl, fun _ => rfl⟩
    | false =>
      have hunheard : u.abort call reason = { u with aborted := some reason } := by
        rw [GuardDiagnostics.abort, hignored, if_neg Bool.false_ne_true]
        exact if_neg (ne_true_of_eq_false hlistening)
      rw [hunheard]
      exact ⟨rfl, rfl, fun _ => hlistening⟩

/-- A report that was made is not made again. -/
theorem Told.abort (h : Told call w P u) (reason : Option ThrownError) :
    Told call w P (u.abort call reason) :=
  h.congr (abort_of_emitted h.1).1 (abort_of_emitted h.1).2.1

/-- An abort was reported. -/
theorem ToldAborted.told (h : ToldAborted call w u) : ∃ P, Told call w P u := by
  obtain ⟨-, -, reason, -, htold⟩ := h
  exact ⟨_, htold⟩

/-- Only the first abort counts. -/
theorem ToldAborted.abort (h : ToldAborted call w u) (reason : Option ThrownError) :
    ToldAborted call w (u.abort call reason) := by
  have hignored : (!call.signal || u.aborted.isSome) = true := by
    obtain ⟨-, -, first, hfirst, -⟩ := h
    rw [hfirst, Option.isSome_some, Bool.or_true]
  rw [abort_of_ignored hignored]
  exact h

/-! ### The operation -/

variable (call w) in
/-- An operation lives among aborts, and waits only while a stage runs or after it was struck. -/
def guardCompany : Company GuardDiagnostics GuardRequest GuardRequest.Answer where
  rely u u' := ∃ reasons : List (Option ThrownError),
    u' = reasons.foldl (fun u reason => u.abort call reason) u
  answers _ _ _ := True
  owed _ u := (∃ k, During call w k u) ∨ ToldAborted call w u

instance : IsTrans GuardDiagnostics (guardCompany call w).rely where
  trans := by
    rintro u u' u'' ⟨reasons, rfl⟩ ⟨reasons', rfl⟩
    exact ⟨reasons ++ reasons', List.foldl_append.symm⟩

/-- An assertion that survives every abort survives the others. -/
theorem rely_keeps {I : GuardDiagnostics → Prop}
    (habort : ∀ u reason, I u → I (u.abort call reason))
    (h : (guardCompany call w).rely u u') (hu : I u) : I u' := by
  obtain ⟨reasons, rfl⟩ := h
  induction reasons generalizing u with
  | nil => exact hu
  | cons reason reasons ih => exact ih (habort u reason hu)

variable (call w) in
/-- The operation has ended, and its stages are as told unless an abort has struck. -/
def Ended (P : List StageResult → Prop) (u : GuardDiagnostics) : Prop :=
  (Told call w P u ∨ ToldAborted call w u) ∧ u.listening = false

/-- An operation that has ended is not struck. -/
theorem Ended.abort (h : Ended call w P u) (reason : Option ThrownError) :
    Ended call w P (u.abort call reason) := by
  obtain ⟨htold, hlistening⟩ := h
  rcases htold with htold | haborted
  · exact ⟨.inl (htold.abort reason), (abort_of_emitted htold.1).2.2 hlistening⟩
  · obtain ⟨P', htold⟩ := haborted.told
    exact ⟨.inr (haborted.abort reason), (abort_of_emitted htold.1).2.2 hlistening⟩

/-- One stage. -/
theorem wp_runStage (hclock : Monotone call.monotonicNow) (hstage : stages[k]? = some stage)
    (h : Before call w k u ∨ ToldAborted call w u) :
    (guardCompany call w).wp (fun _ u => Before call w (k + 1) u ∨ ToldAborted call w u)
      (fun e u => Told call w (Struck w.strike (some e)) u ∨ ToldAborted call w u)
      (runStage call k stage) u := by
  have hbegun : During call w k (u.beginStage call k) ∨ ToldAborted call w (u.beginStage call k) :=
    h.imp (fun hbefore => hbefore.begin hclock hstage) fun haborted => haborted.congr rfl rfl rfl
  rw [runStage, Company.wp_bind, Company.wp_modify, Company.wp_bind, Company.wp_ask]
  refine ⟨hbegun.imp_left fun hduring => ⟨k, hduring⟩, fun v outcome hrely _ => ?_⟩
  -- Whatever is answered, the signal may have aborted before.
  have hv : During call w k v ∨ ToldAborted call w v := by
    refine rely_keeps (I := fun v => During call w k v ∨ ToldAborted call w v) ?_ hrely hbegun
    intro v reason hv
    rcases hv with hduring | haborted
    · exact hduring.abort reason
    · exact .inr (haborted.abort reason)
  cases outcome with
  | ok value =>
    exact hv.imp (fun hduring => hduring.pass hclock) fun haborted => haborted.congr rfl rfl rfl
  | error error =>
    rw [Company.wp_bind, Company.wp_modify]
    -- A stage that rejects after the report was sent leaves it as it is.
    refine hv.imp (fun hduring => hduring.reject) fun haborted => ?_
    obtain ⟨P', htold⟩ := haborted.told
    rw [rejectStage, if_pos htold.1]
    exact haborted

/-- The report of an operation that passed. -/
theorem told_passed (h : Before call w 3 u) : Told call w AllPassed (u.emitReport call) := by
  obtain ⟨hquiet, passed, hlength, hpassed, haccounts, hresults⟩ := h
  have hall : u.results = passed := hresults.trans (List.append_nil passed)
  exact told_emitReport hquiet.reports hquiet.reportEmitted hquiet.operationSequence haccounts
    (hlength ▸ hresults) (hall ▸ hpassed)

/-- The operation among its aborts, from its first stage to its report. -/
theorem wp_runObserved (hclock : Monotone call.monotonicNow) :
    (guardCompany call w).wp (fun _ => Ended call w AllPassed)
      (fun e => Ended call w (Struck w.strike (some e))) (runObserved call) w := by
  rw [runObserved, Company.wp_bind, Company.wp_modify, Company.wp_bind, Company.wp_attempt,
    Company.wp_bind]
  -- However the stages ended, `finally` takes the listener off.
  have hended : ∀ P u, Told call w P u ∨ ToldAborted call w u →
      Ended call w P { u with listening := false } := by
    intro P u hu
    exact ⟨hu.imp (fun htold => htold.congr rfl rfl) fun haborted => haborted.congr rfl rfl rfl,
      rfl⟩
  refine Company.wp_mono (wp_runStage hclock rfl (.inl before_enter)) (fun _ u₁ h₁ => ?_)
    fun e u hu => hended _ u hu
  rw [Company.wp_bind]
  refine Company.wp_mono (wp_runStage hclock rfl h₁) (fun _ u₂ h₂ => ?_) fun e u hu => hended _ u hu
  rw [Company.wp_bind]
  refine Company.wp_mono (wp_runStage hclock rfl h₂) (fun _ u₃ h₃ => ?_) fun e u hu => hended _ u hu
  refine hended AllPassed (u₃.emitReport call) (h₃.imp told_passed fun haborted => ?_)
  obtain ⟨P', htold⟩ := haborted.told
  rw [emitReport, if_pos htold.1]
  exact haborted

/-! ### The runs -/

variable (call w) in
/-- An operation of the guard where it waits or has ended. -/
structure Observed (s : ObservedGuard) : Prop where
  wp : (guardCompany call w).wp (fun _ => Ended call w AllPassed)
    (fun e => Ended call w (Struck w.strike (some e))) s.rest s.diagnostics
  halted : ∀ move next, s.rest ≠ .act move next

/-- What has ended stays as it was told. -/
theorem stable_guardCompany : (guardCompany call w).Stable (fun _ : Unit => Ended call w AllPassed)
    (fun e => Ended call w (Struck w.strike (some e))) where
  owed request u u' := by
    intro howed hrely
    refine rely_keeps (I := fun u => (∃ k, During call w k u) ∨ ToldAborted call w u) ?_ hrely howed
    rintro v reason (⟨k, hduring⟩ | haborted)
    · exact (hduring.abort reason).imp_left fun h => ⟨k, h⟩
    · exact .inr (haborted.abort reason)
  returned _ u u' h hrely := rely_keeps (fun _ reason hv => hv.abort reason) hrely h
  threw _ u u' h hrely := rely_keeps (fun _ reason hv => hv.abort reason) hrely h

/-- The operation is called. -/
theorem observed_start (hclock : Monotone call.monotonicNow) :
    Observed call w (ObservedGuard.start call w) :=
  ⟨(Company.wp_advance (wp_runObserved hclock)).1, advance_ne_act _ _⟩

/-- The step lemma. -/
theorem Observed.step {s t : ObservedGuard} (h : Observed call w s) {input : GuardInput}
    (hstep : s.step call input = some t) : Observed call w t := by
  obtain ⟨u, x⟩ := s
  obtain ⟨hwp, hhalted⟩ := h
  cases input with
  | abort reason =>
    cases hstep
    exact ⟨stable_guardCompany.wp hhalted hwp ⟨[reason], rfl⟩, hhalted⟩
  | settle outcome =>
    cases x with
    | done outcome' => cases hstep
    | act move next => cases hstep
    | await request resume =>
      cases hstep
      exact ⟨(Company.wp_advance (hwp.2 u outcome ⟨[], rfl⟩ trivial)).1, advance_ne_act _ _⟩

/-- An operation with a sink reports once: at its end, or before it when the signal aborts during a
stage. The report tells the stages in order, up to the one that was struck, and why it was. -/
theorem diagnostics_reported_once (call : GuardCall) (hclock : Monotone call.monotonicNow)
    (w : GuardDiagnostics) (inputs : List GuardInput) (t : ObservedGuard)
    (hrun : Machine.exec (ObservedGuard.step call) (ObservedGuard.start call w) inputs = some t) :
    (∀ outcome, t.rest = .done outcome → t.diagnostics.listening = false) ∧
      ((t.diagnostics.reports = w.reports ∧ ∃ request resume, t.rest = .await request resume) ∨
        ∃ report, t.diagnostics.reports = w.reports ++ [report] ∧
          report.Tells call (w.operationSequence + 1) ∧
          ((t.rest = .done (.ok ()) ∧ AllPassed report.stages) ∨
            (∃ error, t.rest = .done (.error error) ∧
              Struck w.strike (some error) report.stages) ∨
            (call.signal = true ∧ w.aborted = none ∧ ∃ reason, t.diagnostics.aborted = some reason ∧
              Struck t.diagnostics.strike reason report.stages))) := by
  -- The invariant of the run says what is owed at the point that was reached; the rest reads it
  -- off.
  have h : Observed call w t :=
    Machine.exec_invariant (fun _ _ _ hs hstep => hs.step hstep) (observed_start hclock) hrun
  obtain ⟨u, x⟩ := t
  obtain ⟨hwp, hhalted⟩ := h
  -- A report that an abort has called for tells of the aborted stage.
  have habort : ToldAborted call w u → ∃ report, u.reports = w.reports ++ [report] ∧
      report.Tells call (w.operationSequence + 1) ∧ call.signal = true ∧ w.aborted = none ∧
        ∃ reason, u.aborted = some reason ∧ Struck u.strike reason report.stages := by
    rintro ⟨hsignal, hfirst, reason, hreason, -, report, hreport, htells, hstruck⟩
    exact ⟨report, hreport, htells, hsignal, hfirst, reason, hreason, hstruck⟩
  cases x with
  | act move next => exact absurd rfl (hhalted move next)
  | await request resume =>
    refine ⟨by rintro _ ⟨⟩, ?_⟩
    obtain ⟨howed, -⟩ := hwp
    -- Nothing is reported while the stages run, unless the signal has aborted.
    rcases howed with ⟨k, hduring⟩ | haborted
    · exact .inl ⟨hduring.1.reports, request, resume, rfl⟩
    · obtain ⟨report, hreport, htells, hstruck⟩ := habort haborted
      exact .inr ⟨report, hreport, htells, .inr (.inr hstruck)⟩
  | done outcome =>
    cases outcome with
    | ok value =>
      obtain ⟨hended, hlistening⟩ := hwp
      rcases hended with htold | haborted
      · obtain ⟨-, report, hreport, htells, hpassed⟩ := htold
        exact ⟨fun _ _ => hlistening, .inr ⟨report, hreport, htells, .inl ⟨rfl, hpassed⟩⟩⟩
      · obtain ⟨report, hreport, htells, hstruck⟩ := habort haborted
        exact ⟨fun _ _ => hlistening, .inr ⟨report, hreport, htells, .inr (.inr hstruck)⟩⟩
    | error error =>
      obtain ⟨hended, hlistening⟩ := hwp
      rcases hended with htold | haborted
      · obtain ⟨-, report, hreport, htells, hstruck⟩ := htold
        exact ⟨fun _ _ => hlistening, .inr ⟨report, hreport, htells,
          .inr (.inl ⟨error, rfl, hstruck⟩)⟩⟩
      · obtain ⟨report, hreport, htells, hstruck⟩ := habort haborted
        exact ⟨fun _ _ => hlistening, .inr ⟨report, hreport, htells, .inr (.inr hstruck)⟩⟩

/-- The endpoint's stage times out, and its observation resolves all the same. -/
theorem diagnostics_reported_once_timeout :
    let call : GuardCall := ⟨.BIND, ⟨1, ⟨4120, "20260101120000.000000+000"⟩⟩, true, fun asked =>
      asked⟩
    let timeout : ThrownError := .ofCode .operationTimeout
    ∃ t report, Machine.exec (ObservedGuard.step call) (ObservedGuard.start call {})
        [.settle (.ok ()), .abort (some timeout), .settle (.ok ())] = some t ∧
      t.diagnostics.reports = [report] ∧ report.Tells call 1 ∧
      Struck .TIMEOUT (some timeout) report.stages := by
  intro call timeout
  refine ⟨_, _, rfl, rfl, ?_⟩
  have h := diagnostics_reported_once call Nat.mono_cast {}
    [.settle (.ok ()), .abort (some timeout), .settle (.ok ())] _ rfl
  obtain ⟨-, (⟨hnone, -⟩ | ⟨report, hreport, htells, h⟩)⟩ := h
  · cases hnone
  · cases hreport
    refine ⟨htells, ?_⟩
    rcases h with ⟨hdone, -⟩ | ⟨error, hdone, -⟩ | ⟨-, -, reason, hreason, hstruck⟩
    · cases hdone
    · cases hdone
    · cases hreason
      exact hstruck

end Telling

end Threadwire
