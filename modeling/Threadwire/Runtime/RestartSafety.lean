import Threadwire.Machine.Runs
import Threadwire.Machine.Trace
import Threadwire.Runtime.ClassicLifecycle

/-!
# Restart never launches beside a live runtime

The law of the lifecycle queue is one about its log: when a body may start, what the stop command
carries, what has been seen before a launch, and what a restart resolves with. Each body keeps it
while others add entries of their own operations, by what its own entries are so far.
-/

namespace Threadwire

/-- The operation whose body makes the entry. -/
def LifecycleEntry.body? : LifecycleEntry → Option ℕ
  | .started operation _ | .captured operation _ | .killed operation _ | .polled operation _
  | .launchPhase operation _ | .installed operation _ | .checked operation _
  | .launched operation _ | .bodySettled operation _ => some operation
  | .called _ _ | .refused _ | .aborted _ | .callerSettled _ _ => none

/-- The entries that the body of an operation has made. -/
def ownEntries (operation : ℕ) (log : List LifecycleEntry) : List LifecycleEntry :=
  log.filter fun entry => entry.body? = some operation

/-- The stop phase captured these processes, has seen no other ones since, and ended with none or
with two polls in a row that saw nothing at all. -/
structure StopSeen (operation : ℕ) (own : List LifecycleEntry)
    (processes : List ClassicProcessInfo) : Prop where
  captured : ∀ other, .captured operation other ∈ own ↔ other = processes
  polled : ∀ remaining, .polled operation remaining ∈ own →
    ∀ process ∈ remaining, runtimeIdentity process ∈ processes.map runtimeIdentity
  quiet : processes = [] ∨
    ∃ front, own = front ++ [.polled operation [], .polled operation []]

/-- The entries of a restart right before its launch: the stop phase, and an observation without
processes that was made after the installation had been resolved. -/
def ReadyToLaunch (operation : ℕ) (executablePath : String) (own : List LifecycleEntry) : Prop :=
  ∃ stop processes generationBeforeLaunch, StopSeen operation stop processes ∧
    own = stop ++ [.launchPhase operation generationBeforeLaunch,
      .installed operation executablePath, .checked operation []]

/-- When an entry may follow. -/
def LifecycleLaw (past : List LifecycleEntry) : LifecycleEntry → Prop
  | .called operation _ => ∀ other method, .called other method ∈ past → other < operation
  | .started operation method => .called operation method ∈ past ∧
    ∀ other earlier, .called other earlier ∈ past → other < operation →
      ∃ outcome, .bodySettled other outcome ∈ past
  | .killed operation identities => ∃ processes,
    (∀ other, .captured operation other ∈ past ↔ other = processes) ∧
      identities = processes.map runtimeIdentity
  | .launchPhase operation _ => ∀ generation, .launchPhase operation generation ∉ past
  | .launched operation executablePath => (∀ other, .launched operation other ∉ past) ∧
    (.started operation .restart ∈ past →
      ReadyToLaunch operation executablePath (ownEntries operation past))
  | .bodySettled operation (.ok result) => .started operation .restart ∈ past →
    ∃ generation generationBeforeLaunch, result = .generation generation ∧
      .launchPhase operation generationBeforeLaunch ∈ past ∧ generationBeforeLaunch < generation
  | .callerSettled operation (.ok result) => .bodySettled operation (.ok result) ∈ past
  | _ => True

namespace ClassicLifecycle

open Coroutine

variable {α β : Type} {operation : ℕ} {signal : Option SignalId}

/-- The entries of a body are those of the log that it has made. -/
theorem mem_ownEntries {log : List LifecycleEntry} {entry : LifecycleEntry}
    (h : entry.body? = some operation) : entry ∈ ownEntries operation log ↔ entry ∈ log := by
  rw [ownEntries, List.mem_filter, decide_eq_true h, and_iff_left rfl]

/-! ## Rely and guarantee -/

/-- What a body relies on. -/
def Rely (operation : ℕ) (world world' : LifecycleWorld) : Prop :=
  ∃ entries, world'.log = world.log ++ entries ∧ ∀ entry ∈ entries, entry.body? ≠ some operation

/-- What a body guarantees. -/
structure Guarantee (operation : ℕ) (world world' : LifecycleWorld) : Prop where
  grown : ∃ entries, world'.log = world.log ++ entries ∧
    ∀ entry ∈ entries, entry.body? = some operation
  lawful : Trace.Lawful LifecycleLaw world.log → Trace.Lawful LifecycleLaw world'.log

variable {world world' : LifecycleWorld}

instance : Std.Refl (Rely operation) where
  refl _ := ⟨[], (List.append_nil _).symm, nofun⟩

instance : IsTrans LifecycleWorld (Rely operation) where
  trans := by
    rintro _ _ _ ⟨entries, hlog, hother⟩ ⟨entries', hlog', hother'⟩
    refine ⟨entries ++ entries', by rw [hlog', hlog, List.append_assoc], fun entry hmem => ?_⟩
    exact (List.mem_append.mp hmem).elim (hother entry) (hother' entry)

instance : Std.Refl (Guarantee operation) where
  refl _ := ⟨⟨[], (List.append_nil _).symm, nofun⟩, id⟩

instance : IsTrans LifecycleWorld (Guarantee operation) where
  trans := by
    rintro _ _ _ ⟨⟨entries, hlog, hown⟩, hlawful⟩ ⟨⟨entries', hlog', hown'⟩, hlawful'⟩
    refine ⟨⟨entries ++ entries', by rw [hlog', hlog, List.append_assoc], fun entry hmem => ?_⟩,
      hlawful' ∘ hlawful⟩
    exact (List.mem_append.mp hmem).elim (hown entry) (hown' entry)

/-- What one body guarantees, the others rely on. -/
theorem Guarantee.rely {other : ℕ} (hne : operation ≠ other) (h : Guarantee other world world') :
    Rely operation world world' := by
  obtain ⟨entries, hlog, hown⟩ := h.grown
  refine ⟨entries, hlog, fun entry hmem habsurd => hne ?_⟩
  exact Option.some.inj (habsurd.symm.trans (hown entry hmem))

/-- An entry of the body that the law allows. -/
theorem guarantee_record {entry : LifecycleEntry} (hbody : entry.body? = some operation)
    (hlaw : LifecycleLaw world.log entry) :
    Guarantee operation world { world with log := world.log ++ [entry] } where
  grown := ⟨[entry], rfl, fun entry' hmem => by rwa [List.mem_singleton.mp hmem]⟩
  lawful hlawful := Trace.lawful_snoc.mpr ⟨hlawful, hlaw⟩

/-- An entry of the body is its last one. -/
theorem ownEntries_snoc {log : List LifecycleEntry} {entry : LifecycleEntry}
    (hbody : entry.body? = some operation) :
    Threadwire.ownEntries operation (log ++ [entry]) =
      Threadwire.ownEntries operation log ++ [entry] := by
  have hkept : [entry].filter (fun entry => entry.body? = some operation) = [entry] :=
    List.filter_eq_self.mpr fun entry' hmem => by
      rw [List.mem_singleton.mp hmem]
      exact decide_eq_true hbody
  rw [Threadwire.ownEntries, List.filter_append, hkept]
  rfl

/-- The others do not touch the entries of a body. -/
theorem Rely.ownEntries (h : Rely operation world world') :
    Threadwire.ownEntries operation world'.log = Threadwire.ownEntries operation world.log := by
  obtain ⟨entries, hlog, hother⟩ := h
  have hnone : entries.filter (fun entry => entry.body? = some operation) = [] := by
    rw [List.filter_eq_nil_iff]
    intro entry hmem
    simpa using hother entry hmem
  rw [Threadwire.ownEntries, hlog, List.filter_append, hnone, List.append_nil]
  rfl

/-! ## Specifications of the parts of a body -/

/-- Whether the entry is the start of a body. -/
def isStart : LifecycleEntry → Bool
  | .started _ _ => true
  | _ => false

/-- The body has started as the same method. -/
def SameStart (operation : ℕ) (own own' : List LifecycleEntry) : Prop :=
  ∀ method, .started operation method ∈ own' ↔ .started operation method ∈ own

/-- With these entries of the body so far, a part that returns has added entries so that `Q` holds,
and one that throws so that `E` holds. -/
def Spec (operation : ℕ) (own : List LifecycleEntry) (x : LifecycleM α)
    (Q : α → List LifecycleEntry → Prop) (E : List LifecycleEntry → Prop) : Prop :=
  ∀ world, ownEntries operation world.log = own →
    wp (Rely operation) (Guarantee operation)
      (fun a world' => SameStart operation own (ownEntries operation world'.log) ∧
        Q a (ownEntries operation world'.log))
      (fun _ world' => SameStart operation own (ownEntries operation world'.log) ∧
        E (ownEntries operation world'.log)) x world

section Rules

variable {own : List LifecycleEntry} {x : LifecycleM α} {Q : α → List LifecycleEntry → Prop}
  {E : List LifecycleEntry → Prop}

/-- A value is returned with the entries so far. -/
theorem spec_pure {a : α} (h : Q a own) : Spec operation own (pure a) Q E := by
  intro world hown
  exact ⟨fun _ => by rw [hown], hown ▸ h⟩

/-- An error is thrown with them. -/
theorem spec_throw {error : ThrownError} (h : E own) :
    Spec operation own (throw error : LifecycleM α) Q E := by
  intro world hown
  exact ⟨fun _ => by rw [hown], hown ▸ h⟩

/-- What an answer comes to. -/
theorem spec_settle {outcome : Except ThrownError α} (hQ : ∀ a, outcome = .ok a → Q a own)
    (hE : E own) : Spec operation own (settle outcome) Q E := by
  cases outcome with
  | ok a => exact spec_pure (hQ a rfl)
  | error error => exact spec_throw hE

/-- Nobody else makes entries of this body while it waits. -/
theorem spec_ask {request : LifecycleRequest} {Q : request.Answer → List LifecycleEntry → Prop}
    (h : ∀ answer, Q answer own) : Spec operation own (ask request) Q E := by
  intro world hown answer world' hrely
  have hsame : ownEntries operation world'.log = own := hrely.ownEntries.trans hown
  exact ⟨fun _ => by rw [hsame], hsame ▸ h answer⟩

/-- The world is read, and others change it. -/
theorem spec_get {Q : LifecycleWorld → List LifecycleEntry → Prop} (h : ∀ world, Q world own) :
    Spec operation own get Q E := by
  intro world hown
  exact ⟨refl world, fun _ => hown ▸ Iff.rfl, hown ▸ h world⟩

/-- A step that leaves the log as it is. -/
theorem spec_modify {f : LifecycleWorld → LifecycleWorld}
    (hlog : ∀ world, (f world).log = world.log) {Q : PUnit → List LifecycleEntry → Prop} (h : Q ⟨⟩ own) :
    Spec operation own (modify f) Q E := by
  intro world hown
  have hsame : ownEntries operation (f world).log = own := by rw [hlog, hown]
  refine ⟨⟨⟨[], by rw [hlog, List.append_nil], nofun⟩, fun hlawful => by rwa [hlog]⟩, ?_, ?_⟩
  · exact fun _ => by rw [hsame]
  · exact hsame ▸ h

/-- An entry that the law allows after the entries of the body so far. -/
theorem spec_record {entry : LifecycleEntry} (hbody : entry.body? = some operation)
    (hstart : isStart entry = false)
    (hlaw : ∀ past, ownEntries operation past = own → LifecycleLaw past entry)
    {Q : Unit → List LifecycleEntry → Prop} (h : Q () (own ++ [entry])) :
    Spec operation own (record entry) Q E := by
  intro world hown
  have hgrown : ownEntries operation (world.log ++ [entry]) = own ++ [entry] := by
    rw [ownEntries_snoc hbody, hown]
  refine ⟨guarantee_record hbody (hlaw world.log hown), ?_, ?_⟩
  · intro method
    show .started operation method ∈ ownEntries operation (world.log ++ [entry]) ↔ _
    rw [hgrown, List.mem_append, List.mem_singleton]
    refine or_iff_left fun habsurd => ?_
    rw [← habsurd] at hstart
    cases hstart
  · show Q () (ownEntries operation (world.log ++ [entry]))
    rwa [hgrown]

/-- The second part starts with the entries of the first. -/
theorem Spec.bind {P : α → List LifecycleEntry → Prop} {f : α → LifecycleM β}
    {Q : β → List LifecycleEntry → Prop} (hx : Spec operation own x P E)
    (hf : ∀ a own', P a own' → Spec operation own' (f a) Q E) :
    Spec operation own (x >>= f) Q E := by
  intro world hown
  rw [wp_bind]
  refine wp_mono (hx world hown) (fun a world' hP => ?_) fun _ _ hE => hE
  have hrest := hf a _ hP.2 world' rfl
  refine wp_mono hrest (fun b world'' hQ => ⟨fun method => ?_, hQ.2⟩) fun _ world'' hE =>
    ⟨fun method => ?_, hE.2⟩
  · exact (hQ.1 method).trans (hP.1 method)
  · exact (hE.1 method).trans (hP.1 method)

/-- A weaker ending. -/
theorem Spec.mono {Q' : α → List LifecycleEntry → Prop} {E' : List LifecycleEntry → Prop}
    (hx : Spec operation own x Q E) (hQ : ∀ a own', Q a own' → Q' a own')
    (hE : ∀ own', E own' → E' own') : Spec operation own x Q' E' := by
  intro world hown
  exact wp_mono (hx world hown) (fun a world' h => ⟨h.1, hQ a _ h.2⟩) fun _ world' h =>
    ⟨h.1, hE _ h.2⟩

/-- A part after an entry that the law allows. -/
theorem Spec.record {entry : LifecycleEntry} {f : Unit → LifecycleM α}
    (hf : Spec operation (own ++ [entry]) (f ()) Q E) (hbody : entry.body? = some operation)
    (hstart : isStart entry = false)
    (hlaw : ∀ past, ownEntries operation past = own → LifecycleLaw past entry) :
    Spec operation own (record entry >>= f) Q E :=
  Spec.bind (spec_record hbody hstart hlaw (Q := fun _ own' => own' = own ++ [entry]) rfl)
    fun _ _ h => h ▸ hf

/-- The handler starts with the entries of what was thrown. -/
theorem Spec.handle {F : List LifecycleEntry → Prop} {handler : ThrownError → LifecycleM α}
    (hx : Spec operation own x Q F)
    (hh : ∀ error own', F own' → Spec operation own' (handler error) Q E) :
    Spec operation own (Coroutine.handle x handler) Q E := by
  intro world hown
  rw [wp_handle]
  refine wp_mono (hx world hown) (fun _ _ hQ => hQ) fun error world' hE => ?_
  refine wp_mono (hh error _ hE.2 world' rfl) (fun b world'' hQ => ⟨fun method => ?_, hQ.2⟩)
    fun _ world'' hE' => ⟨fun method => ?_, hE'.2⟩
  · exact (hQ.1 method).trans (hE.1 method)
  · exact (hE'.1 method).trans (hE.1 method)

/-- An outcome that is kept as a value. -/
theorem Spec.attempt {Q : Except ThrownError α → List LifecycleEntry → Prop}
    {E' : List LifecycleEntry → Prop}
    (hx : Spec operation own x (fun a => Q (.ok a)) fun own' => ∀ e, Q (.error e) own') :
    Spec operation own (Coroutine.attempt x) Q E' := by
  intro world hown
  rw [wp_attempt]
  exact wp_mono (hx world hown) (fun _ _ h => h) fun e world' h => ⟨h.1, h.2 e⟩

/-- Either branch, where its condition holds. -/
theorem spec_ite {c : Prop} [Decidable c] {y : LifecycleM α} (hx : c → Spec operation own x Q E)
    (hy : ¬ c → Spec operation own y Q E) : Spec operation own (if c then x else y) Q E := by
  split
  · next h => exact hx h
  · next h => exact hy h

end Rules

/-! ## Parts that make no entries -/

/-- A part that makes no entries. -/
def Silent (operation : ℕ) (x : LifecycleM α) : Prop :=
  ∀ own, Spec operation own x (fun _ own' => own' = own) fun own' => own' = own

section Silent

variable {own : List LifecycleEntry} {x : LifecycleM α}

/-- A part without entries may stand anywhere. -/
theorem Silent.spec (hx : Silent operation x) {Q : α → List LifecycleEntry → Prop}
    {E : List LifecycleEntry → Prop} (hQ : ∀ a, Q a own) (hE : E own) : Spec operation own x Q E :=
  (hx own).mono (fun a _ h => h ▸ hQ a) fun _ h => h ▸ hE

/-- A part after one that makes no entries. -/
theorem Silent.seq (hx : Silent operation x) {f : α → LifecycleM β}
    {Q : β → List LifecycleEntry → Prop} {E : List LifecycleEntry → Prop} (hE : E own)
    (hf : ∀ a, Spec operation own (f a) Q E) : Spec operation own (x >>= f) Q E :=
  Spec.bind (hx.spec (Q := fun _ own' => own' = own) (fun _ => rfl) hE) fun a _ h => h ▸ hf a

/-- Reading the world makes no entry. -/
theorem silent_get : Silent operation (get : LifecycleM LifecycleWorld) :=
  fun _ => spec_get fun _ => rfl

/-- Nor does a change of anything else but the log. -/
theorem silent_modify {f : LifecycleWorld → LifecycleWorld}
    (hlog : ∀ world, (f world).log = world.log) : Silent operation (modify f : LifecycleM PUnit) :=
  fun _ => spec_modify hlog rfl

/-- Nor a value. -/
theorem silent_pure (a : α) : Silent operation (pure a : LifecycleM α) := fun _ => spec_pure rfl

/-- Nor an error. -/
theorem silent_throw (error : ThrownError) : Silent operation (throw error : LifecycleM α) :=
  fun _ => spec_throw rfl

/-- Nor what an answer comes to. -/
theorem silent_settle (outcome : Except ThrownError α) : Silent operation (settle outcome) :=
  fun _ => spec_settle (fun _ _ => rfl) rfl

/-- Nor a request that is answered. -/
theorem silent_ask (request : LifecycleRequest) :
    Silent operation (ask request : LifecycleM request.Answer) := fun _ => spec_ask fun _ => rfl

/-- Nor two such parts. -/
theorem Silent.bind (hx : Silent operation x) {f : α → LifecycleM β}
    (hf : ∀ a, Silent operation (f a)) : Silent operation (x >>= f) :=
  fun own => (hx own).bind fun a _ h => h ▸ hf a own

/-- A test of the signal makes none. -/
theorem silent_throwIfAborted (signal : Option SignalId) :
    Silent operation (throwIfAborted signal) := by
  refine silent_get.bind fun world => ?_
  split
  · exact silent_throw _
  · exact silent_pure _

/-- The tracker is told of an identity. -/
theorem silent_observe (identity : Option RuntimeIdentity) :
    Silent operation (observe identity) := by
  refine Silent.bind (silent_modify ?_) fun _ => silent_get.bind fun _ => silent_pure _
  exact fun _ => rfl

/-- The processes are asked for. -/
theorem silent_getClassicProcesses : Silent operation getClassicProcesses :=
  (silent_ask _).bind silent_settle

/-- A delay is waited for. -/
theorem silent_delay : Silent operation delay := (silent_ask _).bind silent_settle

/-- Without fuel nothing more happens. -/
theorem spec_outOfFuel {Q : α → List LifecycleEntry → Prop} {E : List LifecycleEntry → Prop} :
    Spec operation own (outOfFuel : LifecycleM α) Q E :=
  Spec.bind (spec_ask (Q := fun _ _ => True) fun _ => trivial) nofun

/-- The main process is observed where there is one. -/
theorem silent_observeMain (mainProcess : Option ClassicProcessInfo) :
    Silent operation (observeMain mainProcess) := by
  cases mainProcess with
  | none => exact silent_pure _
  | some process => exact (silent_observe _).bind fun _ => silent_pure _

/-- `inspect` makes no entry of its own. -/
theorem silent_inspect : Silent operation inspect := by
  refine silent_getClassicProcesses.bind fun processes => ?_
  refine (silent_settle _).bind fun mainProcess => silent_get.bind fun world => ?_
  refine Silent.bind (x := ite _ _ _) ?_ fun _ => silent_pure _
  split
  · exact silent_pure _
  · exact silent_observe _

/-- Neither does `requireExisting`. -/
theorem silent_requireExisting (signal : Option SignalId) :
    Silent operation (requireExisting signal) := by
  refine (silent_throwIfAborted signal).bind fun _ => ?_
  refine silent_getClassicProcesses.bind fun processes => ?_
  refine (silent_settle _).bind fun mainProcess => ?_
  cases mainProcess with
  | none => exact (silent_observe none).bind fun _ => silent_throw _
  | some process =>
    refine (silent_observe _).bind fun _ => silent_get.bind fun world => ?_
    exact (silent_settle _).bind fun _ => silent_pure _

/-- A part after an observation, with the entry for what was seen. -/
theorem Spec.observeProcesses {entry : List ClassicProcessInfo → LifecycleEntry}
    {f : List ClassicProcessInfo → LifecycleM β} {Q : β → List LifecycleEntry → Prop}
    {E : List LifecycleEntry → Prop} (hE : E own)
    (hf : ∀ processes, Spec operation (own ++ [entry processes]) (f processes) Q E)
    (hbody : ∀ processes, (entry processes).body? = some operation)
    (hstart : ∀ processes, isStart (entry processes) = false)
    (hlaw : ∀ processes past, ownEntries operation past = own →
      LifecycleLaw past (entry processes)) :
    Spec operation own (observeProcesses entry >>= f) Q E := by
  refine Spec.bind (P := fun processes own' => own' = own ++ [entry processes]) ?_
    fun processes _ h => h ▸ hf processes
  refine silent_getClassicProcesses.seq hE fun processes => ?_
  exact Spec.record (spec_pure rfl) (hbody processes) (hstart processes) (hlaw processes)

/-- The path of the installation is entered. -/
theorem spec_resolveInstallation {E : List LifecycleEntry → Prop} (hE : E own) :
    Spec operation own (resolveInstallation operation)
      (fun executablePath own' => own' = own ++ [.installed operation executablePath]) E := by
  refine (silent_ask _).seq hE fun resolved => (silent_settle _).seq hE fun executablePath => ?_
  exact Spec.record (spec_pure rfl) rfl rfl fun _ _ => trivial

/-- A command is entered once, whether it succeeds or not. -/
theorem spec_runCommand (command : ClassicCommand)
    (hlaw : ∀ past, ownEntries operation past = own →
      LifecycleLaw past (command.entry operation)) :
    Spec operation own (runCommand operation command)
      (fun _ own' => own' = own ++ [command.entry operation])
      fun own' => own' = own ++ [command.entry operation] := by
  have hbody : (command.entry operation).body? = some operation := by cases command <;> rfl
  have hstart : isStart (command.entry operation) = false := by cases command <;> rfl
  refine Spec.record ?_ hbody hstart hlaw
  exact (silent_ask _).seq rfl fun outcome => (silent_settle _).spec (fun _ => rfl) rfl

/-- A part with a timeout makes the entries that it makes. -/
theorem Spec.withTimeout {Q : α → List LifecycleEntry → Prop} {E : List LifecycleEntry → Prop}
    (hx : Spec operation own x Q E) (hE : E own) :
    Spec operation own (withTimeout signal x) Q E := by
  refine (silent_throwIfAborted signal).seq hE fun _ => (silent_ask _).seq hE fun _ => ?_
  refine Spec.bind hx fun a own' hQ => ?_
  exact Spec.bind (spec_ask (Q := fun _ own'' => own'' = own') fun _ => rfl)
    fun _ _ h => spec_pure (h ▸ hQ)

end Silent

/-! ## The stop phase -/

/-- Whether the entry is one of the stop phase. -/
def isStopEntry : LifecycleEntry → Bool
  | .started _ _ | .captured _ _ | .killed _ _ | .polled _ _ => true
  | _ => false

/-- A stop phase on its way: what it captured, what it has seen since, and how many of its last
polls saw nothing at all. -/
structure Stopping (operation : ℕ) (own : List LifecycleEntry) (processes : List ClassicProcessInfo)
    (quiescentObservations : ℕ) : Prop where
  captured : ∀ other, .captured operation other ∈ own ↔ other = processes
  polled : ∀ remaining, .polled operation remaining ∈ own →
    ∀ process ∈ remaining, runtimeIdentity process ∈ processes.map runtimeIdentity
  entries : ∀ entry ∈ own, isStopEntry entry = true
  few : quiescentObservations < REQUIRED_STOP_QUIESCENT_OBSERVATIONS
  quiescent : quiescentObservations = 1 → ∃ front, own = front ++ [.polled operation []]

/-- What a stop phase ends with. -/
def StopEnded (operation : ℕ) (own : List LifecycleEntry) : Prop :=
  (∃ processes, StopSeen operation own processes) ∧ ∀ entry ∈ own, isStopEntry entry = true

section Stop

variable {own : List LifecycleEntry} {processes remaining : List ClassicProcessInfo}
  {quiescentObservations : ℕ}

/-- A poll that saw only what was captured keeps the stop phase on its way. -/
theorem Stopping.poll (h : Stopping operation own processes quiescentObservations)
    (hknown : ∀ process ∈ remaining, runtimeIdentity process ∈ processes.map runtimeIdentity)
    {n : ℕ} (hfew : n < REQUIRED_STOP_QUIESCENT_OBSERVATIONS) (hn : n = 1 → remaining = []) :
    Stopping operation (own ++ [.polled operation remaining]) processes n where
  captured other := by
    rw [List.mem_append, List.mem_singleton, h.captured]
    exact or_iff_left nofun
  polled other hmem := by
    rcases List.mem_append.mp hmem with hmem | hmem
    · exact h.polled other hmem
    · cases List.mem_singleton.mp hmem
      exact hknown
  entries entry hmem := by
    rcases List.mem_append.mp hmem with hmem | hmem
    · exact h.entries entry hmem
    · rw [List.mem_singleton.mp hmem]
      rfl
  few := hfew
  quiescent hone := ⟨own, by rw [hn hone]⟩

/-- What a poll has seen when no other process was there. -/
theorem known_of_expected
    (hexpected : (remaining.any fun process => !(processes.map runtimeIdentity).any fun identity =>
      processMatchesIdentity process identity) = false) :
    ∀ process ∈ remaining, runtimeIdentity process ∈ processes.map runtimeIdentity := by
  intro process hmem
  have hmatch := List.any_eq_false.mp hexpected process hmem
  rw [Bool.not_eq_true, Bool.not_eq_false', List.any_eq_true] at hmatch
  obtain ⟨identity, hidentity, hsame⟩ := hmatch
  rwa [(sameRuntimeIdentity_iff _ _).mp hsame]

/-- Without other processes and without captured ones there are none. -/
theorem nothing_left
    (hknown : ∀ process ∈ remaining, runtimeIdentity process ∈ processes.map runtimeIdentity)
    (hgone : ((processes.map runtimeIdentity).any fun identity =>
      remaining.any fun process => processMatchesIdentity process identity) = false) :
    remaining = [] := by
  refine List.eq_nil_iff_forall_not_mem.mpr fun process hmem => ?_
  have habsent := List.any_eq_false.mp hgone _ (hknown process hmem)
  refine habsent (List.any_eq_true.mpr ⟨process, hmem, ?_⟩)
  exact (sameRuntimeIdentity_iff _ _).mpr rfl

/-- The loop ends with two polls in a row that saw nothing. -/
theorem spec_awaitExit (fuel : ℕ) (h : Stopping operation own processes quiescentObservations) :
    Spec operation own
      (awaitExit operation (processes.map runtimeIdentity) fuel quiescentObservations)
      (fun _ own' => StopEnded operation own') fun _ => True := by
  induction fuel generalizing own quiescentObservations with
  | zero => exact spec_outOfFuel
  | succ fuel ih =>
    refine Spec.observeProcesses trivial (fun remaining => ?_) (fun _ => rfl) (fun _ => rfl)
      fun _ _ _ => trivial
    refine spec_ite (fun _ => ?_) fun hexpected => ?_
    · exact (silent_observe none).seq trivial fun _ => spec_throw trivial
    have hknown := known_of_expected (Bool.eq_false_iff.mpr hexpected)
    refine spec_ite (fun _ => ?_) fun hgone => ?_
    · exact silent_delay.seq trivial fun _ => ih (h.poll hknown (by decide) nofun)
    have hnothing := nothing_left hknown (Bool.eq_false_iff.mpr hgone)
    subst hnothing
    have hfew := h.few
    refine spec_ite (fun hlast => ?_) fun hmore => ?_
    · -- The poll before this one saw nothing either.
      have hone : quiescentObservations = 1 := by
        simp only [REQUIRED_STOP_QUIESCENT_OBSERVATIONS] at hlast hfew
        omega
      obtain ⟨front, hfront⟩ := h.quiescent hone
      have hnext := h.poll (n := 0) hknown (by decide) nofun
      refine (silent_observe none).seq trivial fun _ => ?_
      refine spec_pure ⟨⟨processes, hnext.captured, hnext.polled, .inr ⟨front, ?_⟩⟩, hnext.entries⟩
      rw [hfront, List.append_assoc]
      rfl
    · exact silent_delay.seq trivial fun _ => ih (h.poll hknown (by omega) fun _ => rfl)

/-- The stop command carries the captured identities, and is all that it enters. -/
theorem spec_runStopCommand (h : Stopping operation own processes 0) :
    Spec operation own (runStopCommand operation signal (processes.map runtimeIdentity))
      (fun _ own' => Stopping operation own' processes 0) fun _ => True := by
  have hkilled : Stopping operation
      (own ++ [.killed operation (processes.map runtimeIdentity)]) processes 0 := by
    -- The command kills what was captured; it observes and polls nothing.
    constructor
    case captured =>
      intro other
      rw [List.mem_append, List.mem_singleton, h.captured]
      exact or_iff_left nofun
    case polled =>
      intro remaining hmem
      rcases List.mem_append.mp hmem with hmem | hmem
      · exact h.polled remaining hmem
      · exact nomatch List.mem_singleton.mp hmem
    case entries =>
      intro entry hmem
      rcases List.mem_append.mp hmem with hmem | hmem
      · exact h.entries entry hmem
      · rw [List.mem_singleton.mp hmem]
        rfl
    case few => exact h.few
    case quiescent => exact nofun
  have hlaw : ∀ past, ownEntries operation past = own →
      LifecycleLaw past (.killed operation (processes.map runtimeIdentity)) := by
    rintro past rfl
    refine ⟨processes, fun other => ?_, rfl⟩
    rw [← h.captured other, mem_ownEntries rfl]
  refine Spec.bind (Spec.attempt (Q := fun _ own' => Stopping operation own' processes 0)
    (Spec.withTimeout ?_ fun _ => h)) fun outcome own' h' => ?_
  · -- The command may fail or take too long: it was sent all the same.
    exact (spec_runCommand (.stop _) hlaw).mono (fun _ _ heq => heq ▸ hkilled)
      fun _ heq _ => heq ▸ hkilled
  · cases outcome with
    | ok _ => exact spec_pure h'
    | error error => exact spec_ite (fun _ => spec_throw trivial) fun _ => spec_pure h'

/-- The stop phase of a body that has just started. -/
theorem spec_stopCapturedProcesses (method : LifecycleMethod) (fuel : ℕ) :
    Spec operation [.started operation method] (stopCapturedProcesses operation signal fuel)
      (fun _ own' => StopEnded operation own') fun _ => True := by
  refine Spec.observeProcesses trivial (fun processes => ?_) (fun _ => rfl) (fun _ => rfl)
    fun _ _ _ => trivial
  refine (silent_settle _).seq trivial fun mainProcess => ?_
  have hstopping : Stopping operation [.started operation method, .captured operation processes]
      processes 0 := by
    constructor
    case captured => simp
    case polled => simp
    case entries => simp [isStopEntry]
    case few => decide
    case quiescent => exact nofun
  refine (silent_observeMain _).seq trivial fun _ => ?_
  refine spec_ite (fun hempty => ?_) fun _ => ?_
  · have hnone := List.length_eq_zero_iff.mp hempty
    refine (silent_observe none).seq trivial fun _ => spec_pure ?_
    exact ⟨⟨processes, hstopping.captured, hstopping.polled, .inl hnone⟩, hstopping.entries⟩
  · refine (silent_observe none).seq trivial fun _ => ?_
    refine Spec.bind (spec_runStopCommand hstopping) fun stopCommandError own' h' => ?_
    exact Spec.handle (F := fun _ => True) (Spec.withTimeout (spec_awaitExit fuel h') trivial)
      fun _ _ _ => spec_throw trivial

/-- `stopExclusive` does no more. -/
theorem spec_stopExclusive (method : LifecycleMethod) (fuel : ℕ) :
    Spec operation [.started operation method] (stopExclusive operation signal fuel)
      (fun _ own' => StopEnded operation own') fun _ => True := by
  have hset : ∀ stopInProgress : Bool, Silent operation
      (modify fun world => { world with stopInProgress } : LifecycleM PUnit) :=
    fun _ => silent_modify fun _ => rfl
  refine (silent_throwIfAborted signal).seq trivial fun _ => (hset true).seq trivial fun _ => ?_
  refine Spec.bind (Spec.attempt
    (Q := fun outcome own' => outcome = .ok () → StopEnded operation own')
    ((spec_stopCapturedProcesses method fuel).mono (fun _ _ h _ => h) fun _ _ => nofun)) ?_
  intro outcome own' hended
  refine (silent_ask _).seq trivial fun _ => (hset false).seq trivial fun _ => ?_
  exact spec_settle (fun _ h => hended h) trivial

end Stop

/-! ## The launch phase -/

section Launch

variable {own : List LifecycleEntry}
  {buildClassicLaunchInvocation : String → Except ThrownError Unit}

/-- The new process has a new generation. -/
theorem spec_awaitNewProcess (generationBeforeLaunch fuel : ℕ) :
    Spec operation own (awaitNewProcess generationBeforeLaunch fuel)
      (fun generation own' => own' = own ∧ generationBeforeLaunch < generation)
      fun own' => own' = own := by
  induction fuel with
  | zero => exact spec_outOfFuel
  | succ fuel ih =>
    have hagain : Spec operation own (do delay; awaitNewProcess generationBeforeLaunch fuel)
        (fun generation own' => own' = own ∧ generationBeforeLaunch < generation)
        fun own' => own' = own :=
      Spec.bind (silent_delay own) fun _ _ h => h ▸ ih
    refine silent_getClassicProcesses.seq rfl fun processes => ?_
    refine (silent_settle _).seq rfl fun mainProcess => ?_
    cases mainProcess with
    | none => exact hagain
    | some process =>
      refine (silent_observe _).seq rfl fun generation => ?_
      exact spec_ite (fun hnew => spec_pure ⟨rfl, hnew⟩) fun _ => hagain

/-- The launch command is dispatched once. -/
theorem spec_launch (executablePath : String)
    (hlaw : ∀ past, ownEntries operation past = own →
      LifecycleLaw past (.launched operation executablePath)) :
    Spec operation own (launch operation executablePath)
      (fun _ own' => own' = own ++ [.launched operation executablePath]) fun _ => True := by
  refine Spec.handle (F := fun _ => True)
    ((spec_runCommand (.launch executablePath) hlaw).mono (fun _ _ h => h) fun _ _ => trivial)
    fun error _ _ => ?_
  exact spec_ite (fun _ => spec_throw trivial) fun _ => spec_throw trivial

/-- The launch phase of a body that was ready for it. -/
theorem spec_startNewGeneration (fuel : ℕ)
    (hphase : ∀ generation, .launchPhase operation generation ∉ own)
    (hlaunched : ∀ executablePath, .launched operation executablePath ∉ own)
    (hstopped : .started operation .restart ∈ own → ∃ processes, StopSeen operation own processes) :
    Spec operation own (startNewGeneration operation signal buildClassicLaunchInvocation fuel)
      (fun generation own' => ∃ generationBeforeLaunch,
        .launchPhase operation generationBeforeLaunch ∈ own' ∧ generationBeforeLaunch < generation)
      fun _ => True := by
  refine silent_get.seq trivial fun world => Spec.record ?_ rfl rfl ?_
  swap
  · -- The phase is entered once.
    rintro past rfl generation hmem
    exact hphase generation ((mem_ownEntries rfl).mpr hmem)
  refine Spec.bind (spec_resolveInstallation trivial) ?_
  rintro executablePath _ rfl
  refine (silent_settle _).seq trivial fun _ => ?_
  refine Spec.observeProcesses trivial (fun processesBeforeLaunch => ?_) (fun _ => rfl)
    (fun _ => rfl) fun _ _ _ => trivial
  -- A launch is made only where no process was seen.
  refine spec_ite (fun _ => ?_) fun hnone => ?_
  · exact (silent_observe none).seq trivial fun _ => spec_throw trivial
  have hempty : processesBeforeLaunch = [] := List.length_eq_zero_iff.mp (not_not.mp hnone)
  subst hempty
  refine Spec.bind (spec_launch executablePath ?_) ?_
  · intro past hown
    have hmem : ∀ entry, entry.body? = some operation → (entry ∈ past ↔ entry ∈ _) :=
      fun _ hbody => (mem_ownEntries hbody).symm.trans (by rw [hown])
    -- Nothing was launched yet, and a restart has seen the old processes gone.
    constructor
    · intro other hother
      rw [hmem _ rfl] at hother
      simp [hlaunched] at hother
    · intro hrestart
      rw [hmem _ rfl] at hrestart
      obtain ⟨processes, hseen⟩ := hstopped (by simpa using hrestart)
      refine ⟨_, processes, world.tracker.generation, hseen, ?_⟩
      rw [hown, List.append_assoc, List.append_assoc]
      rfl
  · rintro _ _ rfl
    refine Spec.handle (F := fun _ => True) (Spec.withTimeout
      ((spec_awaitNewProcess world.tracker.generation fuel).mono ?_ fun _ _ => trivial) trivial)
      fun _ _ _ => spec_throw trivial
    -- The generation that is returned is newer than the one before the launch.
    rintro generation _ ⟨rfl, hnew⟩
    exact ⟨world.tracker.generation, by simp, hnew⟩

/-! ## The bodies -/

/-- What an operation resolves with: for a restart, a generation that is new. -/
def Renewed (operation : ℕ) (method : LifecycleMethod) (result : LifecycleResult)
    (own : List LifecycleEntry) : Prop :=
  method = .restart → ∃ generation generationBeforeLaunch, result = .generation generation ∧
    .launchPhase operation generationBeforeLaunch ∈ own ∧ generationBeforeLaunch < generation

/-- `ensureStarted` has no stop phase, so there is nothing for a launch to follow. -/
theorem spec_ensureStarted (fuel : ℕ) :
    Spec operation [.started operation .ensureStarted]
      (ensureStarted operation signal buildClassicLaunchInvocation fuel)
      (Renewed operation .ensureStarted) fun _ => True := by
  refine (silent_throwIfAborted signal).seq trivial fun _ => ?_
  refine silent_inspect.seq trivial fun snapshot => (silent_ask _).seq trivial fun _ => ?_
  refine spec_ite (fun _ => spec_pure nofun) fun _ => ?_
  refine Spec.bind (spec_startNewGeneration fuel (by simp) (by simp) (by simp)) ?_
  exact fun _ _ _ => spec_pure nofun

/-- A restart resolves with a generation that is new. -/
theorem spec_restart (fuel : ℕ) :
    Spec operation [.started operation .restart]
      (restart operation signal buildClassicLaunchInvocation fuel)
      (Renewed operation .restart) fun _ => True := by
  refine (silent_throwIfAborted signal).seq trivial fun _ => ?_
  refine Spec.bind (spec_stopExclusive .restart fuel) fun _ own' hended => ?_
  refine (silent_ask _).seq trivial fun _ => ?_
  obtain ⟨hseen, hentries⟩ := hended
  refine Spec.bind (spec_startNewGeneration fuel ?_ ?_ fun _ => hseen) ?_
  · exact fun generation hmem => nomatch hentries _ hmem
  · exact fun executablePath hmem => nomatch hentries _ hmem
  · rintro generation own'' ⟨generationBeforeLaunch, hphase, hnew⟩
    exact spec_pure fun _ => ⟨generation, generationBeforeLaunch, rfl, hphase, hnew⟩

/-- Each method keeps to its own. -/
theorem spec_perform (method : LifecycleMethod) (fuel : ℕ) :
    Spec operation [.started operation method]
      (perform operation signal buildClassicLaunchInvocation fuel method)
      (Renewed operation method) fun _ => True := by
  cases method with
  | ensureStarted => exact spec_ensureStarted fuel
  | requireExisting => exact (silent_requireExisting signal).spec (fun _ => nofun) trivial
  | stop =>
    exact Spec.bind (spec_stopExclusive .stop fuel) fun _ _ _ => spec_pure nofun
  | restart => exact spec_restart fuel

/-- An entry is guaranteed, and then relied on. -/
theorem wp_record {R G : LifecycleWorld → LifecycleWorld → Prop} (entry : LifecycleEntry)
    {Q : Unit → LifecycleWorld → Prop} {E : ThrownError → LifecycleWorld → Prop}
    {world : LifecycleWorld} :
    wp R G Q E (record entry) world ↔
      G world { world with log := world.log ++ [entry] } ∧
        Q () { world with log := world.log ++ [entry] } := Iff.rfl

/-- A body that may start keeps the law, and logs how it settles. -/
theorem wp_body (method : LifecycleMethod) (fuel : ℕ) {world : LifecycleWorld}
    (hown : ownEntries operation world.log = [])
    (hlaw : LifecycleLaw world.log (.started operation method)) :
    wp (Rely operation) (Guarantee operation)
      (fun result world' => .bodySettled operation (.ok result) ∈ world'.log)
      (fun error world' => .bodySettled operation (.error error) ∈ world'.log)
      (body operation signal buildClassicLaunchInvocation fuel method) world := by
  have hstarted : ownEntries operation (world.log ++ [.started operation method]) =
      [.started operation method] := by
    rw [ownEntries_snoc rfl, hown, List.nil_append]
  rw [body, wp_bind, wp_record]
  refine ⟨guarantee_record rfl hlaw, ?_⟩
  rw [wp_bind, wp_attempt]
  refine wp_mono (spec_perform method fuel
      { world with log := world.log ++ [.started operation method] } hstarted) ?_ ?_
  · rintro result world' ⟨hsame, hrenewed⟩
    rw [wp_bind, wp_record]
    refine ⟨guarantee_record rfl fun hrestart => ?_, List.mem_append_right _ List.mem_cons_self⟩
    have hmethod := (hsame .restart).mp ((mem_ownEntries rfl).mpr hrestart)
    have hmethod : method = .restart := by
      simpa using (List.mem_singleton.mp hmethod).symm
    obtain ⟨generation, generationBeforeLaunch, hresult, hphase, hnew⟩ := hrenewed hmethod
    exact ⟨generation, generationBeforeLaunch, hresult, (mem_ownEntries rfl).mp hphase, hnew⟩
  · rintro error world' -
    rw [wp_bind, wp_record]
    exact ⟨guarantee_record rfl trivial, List.mem_append_right _ List.mem_cons_self⟩

end Launch

end ClassicLifecycle

/-! ## The queue -/

namespace LifecycleQueue

open ClassicLifecycle

/-- How a body that resolves settles in the log. -/
def Resolved (operation : ℕ) (result : LifecycleResult) (world : LifecycleWorld) : Prop :=
  .bodySettled operation (.ok result) ∈ world.log

/-- How a body that rejects settles in the log. -/
def Rejected (operation : ℕ) (error : ThrownError) (world : LifecycleWorld) : Prop :=
  .bodySettled operation (.error error) ∈ world.log

/-- The bodies follow their specifications, and start in the order of the calls once the one before
is released. -/
structure Sound (q : LifecycleQueue) : Prop where
  bodies : Pool.Sound Rely Guarantee Resolved Rejected q.pool
  ended : Pool.Ended Resolved Rejected q.pool
  lawful : Trace.Lawful LifecycleLaw q.pool.state.log
  called : ∀ operation method, .called operation method ∈ q.pool.state.log ↔
    ∃ call, q.calls[operation]? = some call ∧ call.method = method
  fresh : ∀ operation, q.pool.running.length ≤ operation →
    ownEntries operation q.pool.state.log = []
  released : ∀ operation, operation < q.released →
    ∃ outcome, q.pool.running[operation]? = some (.done outcome)

variable {q : LifecycleQueue}
  {buildClassicLaunchInvocation : String → Except ThrownError Unit} {fuel : ℕ}

/-- How a body has settled is not changed by others. -/
theorem Resolved.rely {operation : ℕ} {result : LifecycleResult} {world world' : LifecycleWorld}
    (h : Resolved operation result world) (hrely : Rely operation world world') :
    Resolved operation result world' := by
  obtain ⟨entries, hlog, -⟩ := hrely
  rw [Resolved, hlog]
  exact List.mem_append_left entries h

/-- Nor if it has rejected. -/
theorem Rejected.rely {operation : ℕ} {error : ThrownError} {world world' : LifecycleWorld}
    (h : Rejected operation error world) (hrely : Rely operation world world') :
    Rejected operation error world' := by
  obtain ⟨entries, hlog, -⟩ := hrely
  rw [Rejected, hlog]
  exact List.mem_append_left entries h

/-- What is done outside the bodies. -/
theorem Sound.move (h : Sound q) (f : LifecycleWorld → LifecycleWorld)
    {entries : List LifecycleEntry}
    (hlog : (f q.pool.state).log = q.pool.state.log ++ entries)
    (hbody : ∀ entry ∈ entries, entry.body? = none)
    (hlaw : Trace.Lawful LifecycleLaw (q.pool.state.log ++ entries)) {calls : List LifecycleCall}
    {settledCallers : List ℕ}
    (hcalled : ∀ operation method, .called operation method ∈ q.pool.state.log ++ entries ↔
      ∃ call, calls[operation]? = some call ∧ call.method = method) :
    Sound { q with pool := q.pool.move f, calls, settledCallers } := by
  have hrely : ∀ operation, Rely operation q.pool.state (f q.pool.state) := by
    refine fun operation => ⟨entries, hlog, fun entry hmem habsurd => ?_⟩
    exact nomatch (hbody entry hmem).symm.trans habsurd
  constructor
  case bodies => exact h.bodies.move hrely
  case ended =>
    exact h.ended.move (fun _ _ _ _ hdone => hdone.rely) (fun _ _ _ _ hdone => hdone.rely) hrely
  case lawful =>
    show Trace.Lawful LifecycleLaw (f q.pool.state).log
    rwa [hlog]
  case called =>
    show ∀ operation method, .called operation method ∈ (f q.pool.state).log ↔ _
    rwa [hlog]
  case fresh =>
    intro operation hle
    exact (hrely operation).ownEntries.trans (h.fresh operation hle)
  case released => exact h.released

/-- Whether the entry is a call. -/
def isCall : LifecycleEntry → Bool
  | .called _ _ => true
  | _ => false

/-- An entry that is not of a body, nor a call. -/
theorem Sound.record (h : Sound q) (entry : LifecycleEntry) (hbody : entry.body? = none)
    (hcall : isCall entry = false) (hlaw : LifecycleLaw q.pool.state.log entry)
    {settledCallers : List ℕ} : Sound { q.record entry with settledCallers } := by
  refine h.move (fun world => { world with log := world.log ++ [entry] }) rfl ?_
    (Trace.lawful_snoc.mpr ⟨h.lawful, hlaw⟩) fun operation method => ?_
  · intro entry' hmem
    rwa [List.mem_singleton.mp hmem]
  · rw [List.mem_append, List.mem_singleton, h.called]
    refine or_iff_left fun habsurd => ?_
    rw [← habsurd] at hcall
    cases hcall

/-- A call is scheduled, or refused. -/
theorem Sound.runLifecycle (h : Sound q) (method : LifecycleMethod) (signal : Option SignalId) :
    Sound (q.runLifecycle method signal) := by
  rw [LifecycleQueue.runLifecycle]
  split
  · exact h.record (.refused method) rfl rfl trivial
  · -- The number of the call is the number of calls before it.
    have hlaw : LifecycleLaw q.pool.state.log (.called q.calls.length method) := by
      intro other earlier hmem
      obtain ⟨call, hcall, -⟩ := (h.called other earlier).mp hmem
      exact (List.getElem?_eq_some_iff.mp hcall).1
    refine h.move (fun world => { world with log := world.log ++ [.called q.calls.length method] })
      rfl ?_ (Trace.lawful_snoc.mpr ⟨h.lawful, hlaw⟩) fun operation method' => ?_
    · intro entry hmem
      rw [List.mem_singleton.mp hmem]
      rfl
    · rw [List.mem_append, List.mem_singleton, h.called]
      constructor
      · rintro (⟨call, hcall, hmethod⟩ | hnew)
        · have hlt := (List.getElem?_eq_some_iff.mp hcall).1
          exact ⟨call, by rw [List.getElem?_append_left hlt, hcall], hmethod⟩
        · cases hnew
          exact ⟨_, List.getElem?_concat_length, rfl⟩
      · rintro ⟨call, hcall, hmethod⟩
        -- The calls of before have smaller numbers, and the new one has the last.
        rcases Nat.lt_trichotomy operation q.calls.length with hlt | rfl | hgt
        · rw [List.getElem?_append_left hlt] at hcall
          exact .inl ⟨call, hcall, hmethod⟩
        · rw [List.getElem?_concat_length] at hcall
          cases hcall
          exact .inr (by rw [← hmethod])
        · rw [List.getElem?_eq_none (by simp; omega)] at hcall
          cases hcall

/-- What a body does leaves the rest of the queue as it is. -/
theorem Sound.advance (h : Sound q) {operation : ℕ} {pool : LifecyclePool}
    (hguarantee : Guarantee operation q.pool.state pool.state)
    (hbodies : Pool.Sound Rely Guarantee Resolved Rejected pool)
    (hended : Pool.Ended Resolved Rejected pool) (hrunning : operation < pool.running.length)
    (hgrown : q.pool.running.length ≤ pool.running.length)
    (hkept : ∀ (other : ℕ) (outcome : Except ThrownError LifecycleResult),
      q.pool.running[other]? = some (.done outcome) →
        pool.running[other]? = some (.done outcome)) : Sound { q with pool } := by
  constructor
  case bodies => exact hbodies
  case ended => exact hended
  case lawful => exact hguarantee.lawful h.lawful
  case called =>
    intro other method
    obtain ⟨entries, hlog, hown⟩ := hguarantee.grown
    rw [← h.called other method]
    show .called other method ∈ pool.state.log ↔ _
    rw [hlog, List.mem_append]
    exact or_iff_left fun hmem => nomatch hown _ hmem
  case fresh =>
    intro other hle
    have hne : other ≠ operation := (Nat.ne_of_lt (Nat.lt_of_lt_of_le hrunning hle)).symm
    rw [(hguarantee.rely hne).ownEntries]
    exact h.fresh other (Nat.le_trans hgrown hle)
  case released =>
    intro other hlt
    obtain ⟨outcome, hdone⟩ := h.released other hlt
    exact ⟨outcome, hkept other outcome hdone⟩

/-- The next body starts. -/
theorem Sound.start (h : Sound q) {call : LifecycleCall} (hcall : q.calls[q.released]? = some call)
    (hrunning : q.pool.running.length = q.released) :
    Sound { q with
      pool := q.pool.start (ClassicLifecycle.body q.released call.signal
        buildClassicLaunchInvocation fuel call.method) } := by
  have hlaw : LifecycleLaw q.pool.state.log (.started q.released call.method) := by
    refine ⟨(h.called _ _).mpr ⟨call, hcall, rfl⟩, fun other earlier _ hlt => ?_⟩
    obtain ⟨outcome, hdone⟩ := h.released other hlt
    cases outcome with
    | ok result => exact ⟨_, h.ended.returned other result hdone⟩
    | error error => exact ⟨_, h.ended.threw other error hdone⟩
  have hbody : Coroutine.wp (Rely q.released) (Guarantee q.released) _ _
      (ClassicLifecycle.body q.released call.signal buildClassicLaunchInvocation fuel call.method)
      q.pool.state :=
    wp_body call.method fuel (h.fresh q.released (Nat.le_of_eq hrunning)) hlaw
  have hpool : q.pool.start (ClassicLifecycle.body q.released call.signal
      buildClassicLaunchInvocation fuel call.method) =
        q.pool.start (ClassicLifecycle.body q.pool.running.length call.signal
          buildClassicLaunchInvocation fuel call.method) := by
    rw [hrunning]
  rw [← hrunning] at hbody
  rw [hpool]
  have hrely : ∀ position other world world', position ≠ other → Guarantee other world world' →
      Rely position world world' := fun _ _ _ _ hne hguarantee => hguarantee.rely hne
  obtain ⟨hbodies, hguarantee⟩ := h.bodies.start hrely hbody
  refine h.advance hguarantee hbodies (h.ended.start (fun _ _ _ _ hdone => hdone.rely)
    (fun _ _ _ _ hdone => hdone.rely) hrely hbody) ?_ ?_ fun _ _ => Pool.done_start
  · rw [Pool.start, List.length_append, List.length_singleton]
    exact Nat.lt_succ_self _
  · rw [Pool.start, List.length_append]
    exact Nat.le_add_right _ _

/-- A body gets an answer. -/
theorem Sound.resume (h : Sound q) (operation : ℕ)
    (answers : ∀ request : LifecycleRequest, Option request.Answer) :
    Sound { q with pool := q.pool.resume operation answers } := by
  have hrely : ∀ position other world world', position ≠ other → Guarantee other world world' →
      Rely position world world' := fun _ _ _ _ hne hguarantee => hguarantee.rely hne
  by_cases hrunning : operation < q.pool.running.length
  · obtain ⟨hbodies, hguarantee⟩ := h.bodies.resume hrely operation answers
    refine h.advance hguarantee hbodies (h.ended.resume (fun _ _ _ _ hdone => hdone.rely)
      (fun _ _ _ _ hdone => hdone.rely) h.bodies hrely operation answers) ?_ ?_ ?_
    · rwa [Pool.length_resume]
    · exact Nat.le_of_eq Pool.length_resume.symm
    · exact fun other outcome hdone => (Pool.done_resume hdone operation answers).1
  · have hnone : q.pool.resume operation answers = q.pool := by
      rw [Pool.resume, List.getElem?_eq_none (Nat.le_of_not_lt hrunning)]
    rw [hnone]
    exact h

/-- What holds of the queue holds after every step. -/
theorem sound_step (h : Sound q) {input : LifecycleInput} {q' : LifecycleQueue}
    (hstep : q.step buildClassicLaunchInvocation fuel input = some q') : Sound q' := by
  -- a body only moves on an answer; the queue and the callers are about it from outside
  cases input with
  | call method signal =>
    obtain rfl := Option.some.inj hstep
    exact h.runLifecycle method signal
  | start =>
    rw [step.eq_def] at hstep
    dsimp only at hstep
    split at hstep
    · next call hcall =>
      obtain ⟨hrunning, ⟨⟩⟩ := Option.ite_none_right_eq_some.mp hstep
      exact h.start hcall hrunning
    · cases hstep
  | answer operation answers =>
    obtain rfl := Option.some.inj hstep
    exact h.resume operation answers
  | release =>
    rw [step.eq_def] at hstep
    dsimp only at hstep
    split at hstep
    · next outcome hdone =>
      cases hstep
      refine ⟨h.bodies, h.ended, h.lawful, h.called, h.fresh, fun operation hlt => ?_⟩
      rcases Nat.lt_succ_iff_lt_or_eq.mp hlt with hlt | rfl
      · exact h.released operation hlt
      · exact ⟨outcome, hdone⟩
    · cases hstep
  | settleCaller operation =>
    rw [step.eq_def] at hstep
    dsimp only at hstep
    split at hstep
    · next outcome hdone =>
      obtain ⟨-, ⟨⟩⟩ := Option.ite_none_left_eq_some.mp hstep
      refine h.record (.callerSettled operation outcome) rfl rfl ?_
      cases outcome with
      | ok result => exact h.ended.returned operation result hdone
      | error error => trivial
    · cases hstep
  | rejectCaller operation =>
    rw [step.eq_def] at hstep
    dsimp only at hstep
    split at hstep
    · split at hstep
      · next reason _ =>
        obtain ⟨-, ⟨⟩⟩ := Option.ite_none_left_eq_some.mp hstep
        exact h.record (.callerSettled operation (.error (abortedError reason))) rfl rfl trivial
      · cases hstep
    · cases hstep
  | abort signal reason =>
    obtain ⟨-, ⟨⟩⟩ := Option.ite_none_right_eq_some.mp hstep
    have hlaw : LifecycleLaw q.pool.state.log (.aborted signal) := trivial
    refine h.move _ rfl ?_ (Trace.lawful_snoc.mpr ⟨h.lawful, hlaw⟩) fun operation method => ?_
    · intro entry hmem
      rw [List.mem_singleton.mp hmem]
      rfl
    · rw [List.mem_append, List.mem_singleton, h.called]
      exact or_iff_left nofun
  | observe identity =>
    obtain rfl := Option.some.inj hstep
    refine h.move _ (List.append_nil _).symm ?_ ?_ ?_
    · exact nofun
    · rw [List.append_nil]
      exact h.lawful
    · rw [List.append_nil]
      exact h.called

/-- At the beginning nothing was called. -/
theorem sound_initial : Sound { pool := { state := {} } } where
  bodies := ⟨nofun⟩
  ended := ⟨nofun, nofun⟩
  lawful := Trace.lawful_nil
  called operation method := by simp
  fresh _ _ := rfl
  released _ := nofun

/-- Restart never launches beside a live runtime: in every run, every entry obeys the law. -/
theorem lifecycle_law (buildClassicLaunchInvocation : String → Except ThrownError Unit) (fuel : ℕ)
    {inputs : List LifecycleInput}
    (hrun : Machine.exec (step buildClassicLaunchInvocation fuel) { pool := { state := {} } }
      inputs = some q) : Trace.Lawful LifecycleLaw q.pool.state.log :=
  (Machine.exec_invariant (fun _ _ _ h hstep => sound_step h hstep) sound_initial hrun).lawful

/-- A restart of a running process, in whose queue another restart waits. -/
theorem lifecycle_law_restart :
    let main (pid : ℕ) : ClassicProcessInfo :=
      { pid, parentPid := 0, creationTime := "2024", role := .MAIN }
    let answer (processes : List ClassicProcessInfo) : LifecycleInput :=
      .answer 0 fun
        | .getClassicProcesses => some (.ok processes)
        | .run _ | .delay => some (.ok ())
        | .resolve => some (.ok "ChatGPT.exe")
        | .turn => some ()
        | .never => none
    let inputs : List LifecycleInput :=
      [.call .restart none, .call .restart none, .start] ++ List.replicate 5 (answer [main 1]) ++
        List.replicate 10 (answer []) ++ List.replicate 2 (answer [main 2]) ++
        [.settleCaller 0, .release, .start]
    ∃ q, Machine.exec (step (fun _ => .ok ()) 3) { pool := { state := {} } } inputs = some q ∧
      .callerSettled 0 (.ok (.generation 2)) ∈ q.pool.state.log ∧
      Trace.Lawful LifecycleLaw q.pool.state.log := by
  intro main answer inputs
  have hsettled : (Machine.exec (step (fun _ => .ok ()) 3) { pool := { state := {} } } inputs).any
      (fun q => q.pool.state.log.contains (.callerSettled 0 (.ok (.generation 2)))) = true := by
    decide +kernel
  obtain ⟨q, hrun, hmem⟩ := (Option.any_eq_true _ _).mp hsettled
  exact ⟨q, hrun, List.contains_iff_mem.mp hmem, lifecycle_law _ 3 hrun⟩

end LifecycleQueue

end Threadwire
