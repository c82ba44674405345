import Threadwire.Domain.Errors

/-!
# Runtime generations and leases

`domain/RuntimeGeneration.ts`: the tracker numbers the runtimes it observes and hands out leases, a
generation together with the identity of its process. A lease is current while the tracker's own
lease is the same.

The scheduler only relies on the `RuntimeLeaseSource` interface and on one fact about it, that a
generation which was replaced never becomes current again. `LeaseHistory` states that interface
with its history, and `Tracks.observe` proves that the tracker is a source of this kind.
-/

namespace Threadwire

/-- `RuntimeIdentity`: a process by its pid and its creation time. -/
structure RuntimeIdentity where
  pid : ℕ
  creationTime : String
deriving DecidableEq, Repr

/-- `RuntimeLease`. Leases are compared field by field (`sameRuntimeLease`), which is equality. -/
structure RuntimeLease where
  generation : ℕ
  identity : RuntimeIdentity
deriving DecidableEq, Repr

/-- `INITIAL_RUNTIME_GENERATION`. -/
def INITIAL_RUNTIME_GENERATION : ℕ := 0

/-- `sameRuntimeIdentity`. -/
def sameRuntimeIdentity (left right : RuntimeIdentity) : Bool :=
  left.pid == right.pid && left.creationTime == right.creationTime

/-- `sameRuntimeLease`. -/
def sameRuntimeLease (left right : RuntimeLease) : Bool :=
  left.generation == right.generation && sameRuntimeIdentity left.identity right.identity

@[simp] theorem sameRuntimeIdentity_iff (left right : RuntimeIdentity) :
    sameRuntimeIdentity left right = true ↔ left = right := by
  cases left; cases right
  simp [sameRuntimeIdentity]

@[simp] theorem sameRuntimeLease_iff (left right : RuntimeLease) :
    sameRuntimeLease left right = true ↔ left = right := by
  cases left; cases right
  simp [sameRuntimeLease]

/-! ## The generation tracker -/

/-- `RuntimeGenerationTracker`. -/
structure RuntimeGenerationTracker where
  generation : ℕ := INITIAL_RUNTIME_GENERATION
  currentIdentity : Option RuntimeIdentity := none
  lastIdentity : Option RuntimeIdentity := none
deriving DecidableEq, Repr

namespace RuntimeGenerationTracker

/-- `observe`: `null` forgets the current identity only; an identity other than the last one starts
a new generation. -/
def observe (t : RuntimeGenerationTracker) :
    Option RuntimeIdentity → RuntimeGenerationTracker
  | none => { t with currentIdentity := none }
  | some identity =>
    let generation :=
      match t.lastIdentity with
      | none => t.generation + 1
      | some last => if sameRuntimeIdentity last identity then t.generation else t.generation + 1
    { generation, currentIdentity := some identity, lastIdentity := some identity }

/-- `getCurrentRuntimeLease`. -/
def getCurrentRuntimeLease (t : RuntimeGenerationTracker) : Except ThrownError RuntimeLease :=
  match t.currentIdentity with
  | none => .error (.ofCode .runtimeNotObserved)
  | some identity =>
    if t.generation = INITIAL_RUNTIME_GENERATION then .error (.ofCode .runtimeNotObserved)
    else .ok ⟨t.generation, identity⟩

/-- `assertRuntimeLeaseCurrent`. -/
def assertRuntimeLeaseCurrent (t : RuntimeGenerationTracker) (lease : RuntimeLease) :
    Except ThrownError Unit := do
  let current ← t.getCurrentRuntimeLease
  if sameRuntimeLease current lease then pure ()
  else throw (.ofCode .runtimeGenerationChanged)

/-- A lease that is current is one of the current identity. -/
theorem currentIdentity_of_assertRuntimeLeaseCurrent (t : RuntimeGenerationTracker)
    {lease : RuntimeLease} (h : t.assertRuntimeLeaseCurrent lease = .ok ()) :
    t.currentIdentity = some lease.identity := by
  unfold assertRuntimeLeaseCurrent getCurrentRuntimeLease at h
  cases hidentity : t.currentIdentity with
  | none =>
    rw [hidentity] at h
    cases h
  | some identity =>
    by_cases hgeneration : t.generation = INITIAL_RUNTIME_GENERATION
    · simp [hidentity, hgeneration, bind, Except.bind] at h
    · by_cases hsame : sameRuntimeLease ⟨t.generation, identity⟩ lease = true
      · rw [← (sameRuntimeLease_iff _ _).mp hsame]
      · simp [hidentity, hgeneration, hsame, bind, Except.bind, throw, throwThe,
          MonadExceptOf.throw] at h

end RuntimeGenerationTracker

/-! ## Lease sources with their history -/

/-- A `RuntimeLeaseSource` and what it has been: the lease that is current, if one is, and every
lease that has been current, the most recent first. -/
structure LeaseHistory where
  current : Option RuntimeLease := none
  history : List RuntimeLease := []
deriving DecidableEq, Repr

namespace LeaseHistory

/-- `getCurrentRuntimeLease` of the source. -/
def getCurrentRuntimeLease (r : LeaseHistory) : Except ThrownError RuntimeLease :=
  match r.current with
  | none => .error (.ofCode .runtimeNotObserved)
  | some lease => .ok lease

/-- `assertRuntimeLeaseCurrent` of the source. -/
def assertRuntimeLeaseCurrent (r : LeaseHistory) (lease : RuntimeLease) :
    Except ThrownError Unit := do
  let current ← r.getCurrentRuntimeLease
  if sameRuntimeLease current lease then pure ()
  else throw (.ofCode .runtimeGenerationChanged)

/-- A lease that has been current at some time. -/
def Issued (r : LeaseHistory) (lease : RuntimeLease) : Prop := lease ∈ r.history

/-- A lease that was current and has been replaced by another one since. -/
def Superseded (r : LeaseHistory) (lease : RuntimeLease) : Prop := lease ∈ r.history.tail

instance (r : LeaseHistory) (lease : RuntimeLease) : Decidable (r.Issued lease) :=
  inferInstanceAs (Decidable (lease ∈ r.history))

instance (r : LeaseHistory) (lease : RuntimeLease) : Decidable (r.Superseded lease) :=
  inferInstanceAs (Decidable (lease ∈ r.history.tail))

/-- The source may change to `next`: no lease, the most recent one again, or one of a generation
that was never current before. -/
def Admits (r : LeaseHistory) : Option RuntimeLease → Prop
  | none => True
  | some lease =>
    r.history.head? = some lease ∨ ∀ past ∈ r.history, past.generation ≠ lease.generation

instance (r : LeaseHistory) : (next : Option RuntimeLease) → Decidable (r.Admits next)
  | none => inferInstanceAs (Decidable True)
  | some lease => inferInstanceAs (Decidable
      (r.history.head? = some lease ∨ ∀ past ∈ r.history, past.generation ≠ lease.generation))

/-- The source after a change. -/
def change (r : LeaseHistory) : Option RuntimeLease → LeaseHistory
  | none => { r with current := none }
  | some lease =>
    { current := some lease
      history := if r.history.head? = some lease then r.history else lease :: r.history }

/-- The current lease is the most recent one, and no two leases of the history share a
generation. -/
structure WellFormed (r : LeaseHistory) : Prop where
  current_eq : ∀ lease, r.current = some lease → r.history.head? = some lease
  generations : (r.history.map RuntimeLease.generation).Nodup

/-- A source that never had a lease. -/
theorem wellFormed_empty : WellFormed {} :=
  ⟨fun _ h => by simp at h, List.nodup_nil⟩

/-- An admitted change keeps the current lease at the head and the generations apart. -/
theorem WellFormed.change {r : LeaseHistory} (hr : r.WellFormed) {next : Option RuntimeLease}
    (hnext : r.Admits next) : (r.change next).WellFormed := by
  cases next with
  | none => exact ⟨fun _ h => by simp [LeaseHistory.change] at h, hr.generations⟩
  | some lease =>
    by_cases hhead : r.history.head? = some lease
    · refine ⟨fun l hl => ?_, ?_⟩
      · simp only [LeaseHistory.change, hhead, if_pos] at hl ⊢
        exact hl
      · simpa only [LeaseHistory.change, hhead, if_pos] using hr.generations
    · have hfresh : ∀ past ∈ r.history, past.generation ≠ lease.generation :=
        hnext.resolve_left hhead
      refine ⟨fun l hl => ?_, ?_⟩
      · simp only [LeaseHistory.change, if_neg hhead, List.head?_cons] at hl ⊢
        exact hl
      · simp only [LeaseHistory.change, if_neg hhead, List.map_cons, List.nodup_cons]
        refine ⟨?_, hr.generations⟩
        rintro hmem
        obtain ⟨past, hpast, heq⟩ := List.mem_map.mp hmem
        exact hfresh past hpast heq

/-- A superseded lease is not current. -/
theorem WellFormed.not_current {r : LeaseHistory} (hr : r.WellFormed) {lease : RuntimeLease}
    (h : r.Superseded lease) : r.current ≠ some lease := by
  intro hcur
  have hhead := hr.current_eq lease hcur
  have hnodup := hr.generations
  unfold Superseded at h
  cases hh : r.history with
  | nil => simp [hh] at hhead
  | cons first rest =>
    rw [hh] at hhead hnodup h
    simp only [List.head?_cons, Option.some.injEq] at hhead
    simp only [List.tail_cons] at h
    simp only [List.map_cons, List.nodup_cons] at hnodup
    exact hnodup.1 (hhead ▸ List.mem_map_of_mem h)

/-- What has been superseded stays so. -/
theorem Superseded.change {r : LeaseHistory} {lease : RuntimeLease} (h : r.Superseded lease)
    (next : Option RuntimeLease) : (r.change next).Superseded lease := by
  cases next with
  | none => exact h
  | some l =>
    by_cases hhead : r.history.head? = some l
    · simpa only [Superseded, LeaseHistory.change, hhead, if_pos] using h
    · simpa only [Superseded, LeaseHistory.change, if_neg hhead, List.tail_cons] using
        List.mem_of_mem_tail h

/-- What has been issued stays so. -/
theorem Issued.change {r : LeaseHistory} {lease : RuntimeLease} (h : r.Issued lease)
    (next : Option RuntimeLease) : (r.change next).Issued lease := by
  cases next with
  | none => exact h
  | some l =>
    by_cases hhead : r.history.head? = some l
    · simpa only [Issued, LeaseHistory.change, hhead, if_pos] using h
    · simpa only [Issued, LeaseHistory.change, if_neg hhead] using List.mem_cons_of_mem l h

/-- An issued lease other than the current one is superseded. -/
theorem WellFormed.superseded_of_ne {r : LeaseHistory} (hr : r.WellFormed)
    {lease current : RuntimeLease} (hissued : r.Issued lease) (hcur : r.current = some current)
    (hne : lease ≠ current) : r.Superseded lease := by
  have hhead := hr.current_eq current hcur
  unfold Issued Superseded at *
  cases hh : r.history with
  | nil => simp [hh] at hhead
  | cons first rest =>
    rw [hh] at hhead hissued
    simp only [List.head?_cons, Option.some.injEq] at hhead
    rcases List.mem_cons.mp hissued with heq | hrest
    · exact absurd (heq.trans hhead) hne
    · exact hrest

/-- The assertion holds of the current lease only. -/
@[simp] theorem assertRuntimeLeaseCurrent_eq_ok {r : LeaseHistory} {lease : RuntimeLease} :
    r.assertRuntimeLeaseCurrent lease = .ok () ↔ r.current = some lease := by
  unfold assertRuntimeLeaseCurrent getCurrentRuntimeLease
  cases hcur : r.current with
  | none => simp [bind, Except.bind]
  | some current =>
    by_cases heq : current = lease
    · simp [bind, Except.bind, heq, pure, Except.pure]
    · simp [bind, Except.bind, heq, throw, throwThe, MonadExceptOf.throw]

end LeaseHistory

/-! ## The tracker as a lease source -/

namespace RuntimeGenerationTracker

/-- The lease the tracker hands out, if any. -/
def lease? (t : RuntimeGenerationTracker) : Option RuntimeLease := t.getCurrentRuntimeLease.toOption

/-- The tracker stands at the end of the history: its current lease is the history's, its last
identity belongs to the most recent lease, and every earlier generation is smaller. -/
structure Tracks (t : RuntimeGenerationTracker) (r : LeaseHistory) : Prop where
  current : t.lease? = r.current
  recent : ∀ last, t.lastIdentity = some last →
    r.history.head? = some ⟨t.generation, last⟩ ∧ t.generation ≠ INITIAL_RUNTIME_GENERATION
  initial : t.lastIdentity = none → r.history = [] ∧ t.currentIdentity = none
  bound : ∀ past ∈ r.history, past.generation ≤ t.generation
  known : ∀ identity, t.currentIdentity = some identity → t.lastIdentity = some identity

/-- A tracker that has observed nothing has no history. -/
theorem tracks_initial : Tracks {} {} :=
  ⟨rfl, fun _ h => by simp at h, fun _ => ⟨rfl, rfl⟩, fun _ h => by simp at h,
    fun _ h => by simp at h⟩

/-- Every observation is a change the lease source admits, and the tracker keeps up with it. -/
theorem Tracks.observe {t : RuntimeGenerationTracker} {r : LeaseHistory} (h : t.Tracks r)
    (observation : Option RuntimeIdentity) :
    r.Admits (t.observe observation).lease? ∧
      (t.observe observation).Tracks (r.change (t.observe observation).lease?) := by
  cases observation with
  | none =>
    -- the last identity stays, so that the same runtime may come back with the same lease
    refine ⟨trivial, rfl, ?_, ?_, h.bound,
      fun _ hi => by simp [RuntimeGenerationTracker.observe] at hi⟩
    · exact h.recent
    · exact fun hlast => ⟨(h.initial hlast).1, rfl⟩
  | some identity =>
    cases hlast : t.lastIdentity with
    | none =>
      -- the first runtime ever seen
      obtain ⟨hhist, -⟩ := h.initial hlast
      have hl : (t.observe (some identity)).lease? = some ⟨t.generation + 1, identity⟩ := by
        simp [lease?, getCurrentRuntimeLease, RuntimeGenerationTracker.observe, hlast,
          INITIAL_RUNTIME_GENERATION, Except.toOption]
      rw [hl]
      refine ⟨Or.inr (by simp [hhist]), ⟨by rw [hl]; rfl, ?_, ?_, ?_, ?_⟩⟩
      · intro last hlast'
        simp only [RuntimeGenerationTracker.observe, hlast, Option.some.injEq] at hlast' ⊢
        subst hlast'
        simp [LeaseHistory.change, hhist, INITIAL_RUNTIME_GENERATION]
      · intro hnone
        simp [RuntimeGenerationTracker.observe] at hnone
      · intro past hpast
        simp only [LeaseHistory.change, hhist, List.head?_nil, reduceCtorEq, if_false,
          List.mem_singleton] at hpast
        simp [hpast, RuntimeGenerationTracker.observe, hlast]
      · intro i hi
        simpa [RuntimeGenerationTracker.observe] using hi
    | some last =>
      obtain ⟨hhead, hgen⟩ := h.recent last hlast
      by_cases hsame : last = identity
      · subst hsame
        have hl : (t.observe (some last)).lease? = some ⟨t.generation, last⟩ := by
          simp [lease?, getCurrentRuntimeLease, RuntimeGenerationTracker.observe, hlast, hgen,
            Except.toOption]
        rw [hl]
        refine ⟨Or.inl hhead, ⟨by rw [hl]; rfl, ?_, ?_, ?_, ?_⟩⟩
        · intro last' hlast'
          simp only [RuntimeGenerationTracker.observe, hlast, sameRuntimeIdentity_iff, if_true,
            Option.some.injEq] at hlast' ⊢
          subst hlast'
          simp [LeaseHistory.change, hhead, hgen]
        · intro hnone
          simp [RuntimeGenerationTracker.observe] at hnone
        · intro past hpast
          simp only [LeaseHistory.change, hhead, if_true] at hpast
          simpa [RuntimeGenerationTracker.observe, hlast] using h.bound past hpast
        · intro i hi
          simpa [RuntimeGenerationTracker.observe] using hi
      · -- another runtime: its generation is above all that the history knows
        have hl : (t.observe (some identity)).lease? = some ⟨t.generation + 1, identity⟩ := by
          simp [lease?, getCurrentRuntimeLease, RuntimeGenerationTracker.observe, hlast, hsame,
            INITIAL_RUNTIME_GENERATION, Except.toOption]
        have hne : r.history.head? ≠ some ⟨t.generation + 1, identity⟩ := by
          rw [hhead]
          simp
        rw [hl]
        refine ⟨Or.inr fun past hpast => ?_, ⟨by rw [hl]; rfl, ?_, ?_, ?_, ?_⟩⟩
        · have := h.bound past hpast
          simp only [ne_eq]
          omega
        · intro last' hlast'
          simp only [RuntimeGenerationTracker.observe, hlast, sameRuntimeIdentity_iff, hsame,
            if_false, Option.some.injEq] at hlast' ⊢
          subst hlast'
          simp [LeaseHistory.change, hne, INITIAL_RUNTIME_GENERATION]
        · intro hnone
          simp [RuntimeGenerationTracker.observe] at hnone
        · intro past hpast
          simp only [LeaseHistory.change, if_neg hne, List.mem_cons] at hpast
          have hgen' : (t.observe (some identity)).generation = t.generation + 1 := by
            simp [RuntimeGenerationTracker.observe, hlast, hsame]
          rw [hgen']
          rcases hpast with rfl | hpast
          · exact Nat.le_refl _
          · exact Nat.le_succ_of_le (h.bound past hpast)
        · intro i hi
          simpa [RuntimeGenerationTracker.observe] using hi

end RuntimeGenerationTracker

end Threadwire
