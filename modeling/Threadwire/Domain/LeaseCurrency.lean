import Threadwire.Collections.Changes
import Threadwire.Domain.RuntimeGeneration
import Threadwire.Machine.Runs

/-!
# When a lease is current

The tracker after any sequence of observations, in closed form: its current identity is the last
observation, its last identity the last one that was not null, and its generation the number of
changes among those. From this follows which leases are current when: a lease survives the
disappearance of its runtime, but not that of another one that came in between.

The last section runs the tracker beside a lease source with its history: what it hands out is a
run of that source, so what is proved of the scheduler over any such source holds over the tracker.
-/

namespace Threadwire

namespace RuntimeGenerationTracker

/-- The tracker after a sequence of observations. -/
def observeAll (observations : List (Option RuntimeIdentity)) : RuntimeGenerationTracker :=
  observations.foldl observe {}

/-- The observations that saw a runtime. -/
def seen (observations : List (Option RuntimeIdentity)) : List RuntimeIdentity :=
  observations.filterMap id

variable {observations before after : List (Option RuntimeIdentity)} {lease : RuntimeLease}

/-- Runtimes are seen in the order in which they were observed. -/
theorem seen_append : seen (before ++ after) = seen before ++ seen after := List.filterMap_append

theorem mem_seen {identity : RuntimeIdentity} :
    identity ∈ seen observations ↔ some identity ∈ observations := by
  simp [seen]

/-- The closed form of the tracker. -/
structure ClosedForm (observations : List (Option RuntimeIdentity)) (t : RuntimeGenerationTracker) :
    Prop where
  current : t.currentIdentity = observations.getLast?.join
  last : t.lastIdentity = (seen observations).getLast?
  generation : t.generation = Changes.count (seen observations)

/-- The step lemma: an observation of a runtime may be a change, one of none is not. -/
theorem ClosedForm.observe {t : RuntimeGenerationTracker} (h : ClosedForm observations t)
    (observation : Option RuntimeIdentity) :
    ClosedForm (observations ++ [observation]) (t.observe observation) := by
  have hseen : seen (observations ++ [observation]) = seen observations ++ observation.toList := by
    rw [seen_append]
    cases observation <;> rfl
  cases observation with
  | none =>
    rw [Option.toList_none, List.append_nil] at hseen
    refine ⟨?_, hseen ▸ h.last, hseen ▸ h.generation⟩
    rw [List.getLast?_concat]
    rfl
  | some identity =>
    rw [Option.toList_some] at hseen
    refine ⟨?_, ?_, ?_⟩
    · rw [List.getLast?_concat]
      rfl
    · rw [hseen, List.getLast?_concat]
      rfl
    · rw [hseen, Changes.count_snoc, ← h.last, ← h.generation]
      cases hlast : t.lastIdentity with
      | none => simp [RuntimeGenerationTracker.observe, hlast]
      | some last =>
        by_cases hsame : last = identity
        · simp [RuntimeGenerationTracker.observe, hlast, hsame]
        · simp [RuntimeGenerationTracker.observe, hlast, hsame]

/-- The run lemma. -/
theorem observeAll_closedForm (observations : List (Option RuntimeIdentity)) :
    ClosedForm observations (observeAll observations) := by
  induction observations using List.reverseRecOn with
  | nil => exact ⟨rfl, rfl, rfl⟩
  | append_singleton observations observation ih =>
    have hsnoc : observeAll (observations ++ [observation]) =
        (observeAll observations).observe observation := by
      rw [observeAll, List.foldl_append]
      rfl
    rw [hsnoc]
    exact ih.observe observation

/-- A runtime was seen, so the generation is not the initial one. -/
theorem count_seen_ne_zero {identity : RuntimeIdentity} (h : some identity ∈ observations) :
    Changes.count (seen observations) ≠ INITIAL_RUNTIME_GENERATION := by
  obtain ⟨first, others, heq⟩ := List.exists_cons_of_ne_nil
    (List.ne_nil_of_mem (mem_seen.mpr h))
  have hfirst : Changes.count [first] ≤ Changes.count ([first] ++ others) :=
    Changes.count_le_append [first] others
  rw [heq, INITIAL_RUNTIME_GENERATION]
  exact Nat.one_le_iff_ne_zero.mp hfirst

/-- The lease the tracker hands out. -/
theorem getCurrentRuntimeLease_observeAll :
    (observeAll observations).getCurrentRuntimeLease = .ok lease ↔
      observations.getLast? = some (some lease.identity) ∧
        lease.generation = Changes.count (seen observations) := by
  obtain ⟨hcurrent, -, hgeneration⟩ := observeAll_closedForm observations
  rw [getCurrentRuntimeLease, hcurrent, hgeneration]
  cases hlast : observations.getLast? with
  | none => simp
  | some observation =>
    cases observation with
    | none => simp
    | some identity =>
      have hne := count_seen_ne_zero (List.mem_of_getLast? hlast)
      obtain ⟨generation, identity'⟩ := lease
      simp only [Option.join_some, if_neg hne, Except.ok.injEq, RuntimeLease.mk.injEq,
        Option.some.injEq]
      exact ⟨fun h => ⟨h.2, h.1.symm⟩, fun h => ⟨h.2.symm, h.1⟩⟩

/-- A lease is current exactly if it is the one the tracker hands out. -/
theorem assertRuntimeLeaseCurrent_eq_ok (t : RuntimeGenerationTracker) :
    t.assertRuntimeLeaseCurrent lease = .ok () ↔ t.getCurrentRuntimeLease = .ok lease := by
  unfold assertRuntimeLeaseCurrent
  cases hcurrent : t.getCurrentRuntimeLease with
  | error error => simp [bind, Except.bind]
  | ok current =>
    by_cases heq : current = lease
    · simp [bind, Except.bind, heq, pure, Except.pure]
    · simp [bind, Except.bind, heq, throw, throwThe, MonadExceptOf.throw]

/-- A lease that was handed out is current later if and only if a runtime is observed then, and no
other one was observed since. -/
theorem lease_current_iff (hissued : (observeAll before).getCurrentRuntimeLease = .ok lease) :
    (observeAll (before ++ after)).assertRuntimeLeaseCurrent lease = .ok () ↔
      (before ++ after).getLast? ≠ some none ∧
        ∀ identity, some identity ∈ after → identity = lease.identity := by
  obtain ⟨hlast, hgeneration⟩ := getCurrentRuntimeLease_observeAll.mp hissued
  have hseen : (seen before).getLast? = some lease.identity := by
    obtain ⟨earlier, rfl⟩ := List.getLast?_eq_some_iff.mp hlast
    rw [seen_append]
    exact List.getLast?_concat
  rw [assertRuntimeLeaseCurrent_eq_ok, getCurrentRuntimeLease_observeAll, hgeneration, seen_append,
    eq_comm (a := Changes.count (seen before)), Changes.count_append_eq_iff hseen]
  simp only [mem_seen]
  refine and_congr_left fun hall => ?_
  -- The generation says that no change was seen; the last observation must be that of a runtime.
  constructor
  · rintro heq habsurd
    rw [heq] at habsurd
    cases habsurd
  · intro hne
    cases hlast' : (before ++ after).getLast? with
    | none =>
      rw [List.getLast?_eq_none_iff, List.append_eq_nil_iff] at hlast'
      rw [hlast'.1] at hlast
      cases hlast
    | some observation =>
      cases observation with
      | none => exact absurd hlast' hne
      | some identity =>
        rw [List.getLast?_append] at hlast'
        cases hafter : after.getLast? with
        | none =>
          rw [hafter, hlast] at hlast'
          exact hlast'.symm
        | some observation =>
          rw [hafter] at hlast'
          cases hlast'
          rw [hall identity (List.mem_of_getLast? hafter)]

/-- What holds of the leases of a tracker, whatever it observed. Positions count from zero, and
`take (i + 1)` is what was observed up to position `i`. -/
structure LeaseLaw (observations : List (Option RuntimeIdentity)) : Prop where
  current_iff : ∀ i j lease, i ≤ j → j < observations.length →
    (observeAll (observations.take (i + 1))).getCurrentRuntimeLease = .ok lease →
      ((observeAll (observations.take (j + 1))).assertRuntimeLeaseCurrent lease = .ok () ↔
        observations[j]? ≠ some none ∧
          ∀ k identity, i < k → k ≤ j → observations[k]? = some (some identity) →
            identity = lease.identity)
  returned : ∀ a b lease, a ≠ b →
    (observeAll (observations ++ [some a])).getCurrentRuntimeLease = .ok lease →
      (observeAll (observations ++ [some a] ++ [some b, some a])).assertRuntimeLeaseCurrent lease ≠
        .ok ()
  reappeared : ∀ a lease, (observeAll (observations ++ [some a])).getCurrentRuntimeLease = .ok lease →
    (observeAll (observations ++ [some a] ++ [none, some a])).assertRuntimeLeaseCurrent lease = .ok ()
  generation_mono : ∀ i j, i ≤ j →
    (observeAll (observations.take i)).generation ≤ (observeAll (observations.take j)).generation
  generation_eq : (observeAll observations).generation = Changes.count (seen observations)

/-- What was observed up to a later position. -/
theorem take_later {i j : ℕ} (hij : i ≤ j) :
    observations.take (j + 1) =
      observations.take (i + 1) ++ (observations.take (j + 1)).drop (i + 1) := by
  have htake : (observations.take (j + 1)).take (i + 1) = observations.take (i + 1) := by
    rw [List.take_take, Nat.min_eq_left (by omega)]
  rw [← htake, List.take_append_drop]

/-- The runtime a lease was issued for is the one observed last. -/
theorem identity_of_issued {a : RuntimeIdentity}
    (h : (observeAll (observations ++ [some a])).getCurrentRuntimeLease = .ok lease) :
    lease.identity = a := by
  obtain ⟨hlast, -⟩ := getCurrentRuntimeLease_observeAll.mp h
  rw [List.getLast?_concat] at hlast
  cases hlast
  rfl

/-- The leases of the tracker, whatever it observes. -/
theorem lease_law (observations : List (Option RuntimeIdentity)) : LeaseLaw observations where
  current_iff i j lease hij hj hissued := by
    -- The last observation of the first `j + 1` is the one at `j`.
    have hlast : (observations.take (j + 1)).getLast? = observations[j]? := by
      rw [List.getLast?_eq_getElem?, List.length_take, Nat.min_eq_left (by omega),
        Nat.add_sub_cancel, List.getElem?_take_of_lt (Nat.lt_succ_self j)]
    -- Between the two positions the observations are the same, read by index or as a list.
    have hbetween : ∀ identity : RuntimeIdentity,
        some identity ∈ (observations.take (j + 1)).drop (i + 1) ↔
          ∃ k, i < k ∧ k ≤ j ∧ observations[k]? = some (some identity) := by
      intro identity
      rw [List.mem_iff_getElem?]
      constructor
      · rintro ⟨k, hk⟩
        rw [List.getElem?_drop] at hk
        obtain ⟨hlt, -⟩ := List.getElem?_eq_some_iff.mp hk
        rw [List.length_take] at hlt
        rw [List.getElem?_take_of_lt (by omega)] at hk
        exact ⟨i + 1 + k, by omega, by omega, hk⟩
      · rintro ⟨k, hik, hkj, hk⟩
        refine ⟨k - (i + 1), ?_⟩
        rw [List.getElem?_drop, List.getElem?_take_of_lt (by omega)]
        rwa [show i + 1 + (k - (i + 1)) = k by omega]
    rw [take_later hij, lease_current_iff hissued, ← take_later hij, hlast]
    refine and_congr_right fun _ => ?_
    constructor
    · intro hall k identity hik hkj hk
      exact hall identity ((hbetween identity).mpr ⟨k, hik, hkj, hk⟩)
    · intro hall identity hmem
      obtain ⟨k, hik, hkj, hk⟩ := (hbetween identity).mp hmem
      exact hall k identity hik hkj hk
  returned a b lease hne hissued hcurrent := by
    -- A lease knows the identity it was issued for, and another one was seen since.
    have hidentity : lease.identity = a := identity_of_issued hissued
    obtain ⟨-, hall⟩ := (lease_current_iff hissued).mp hcurrent
    exact hne ((hall b List.mem_cons_self).trans hidentity).symm
  reappeared a lease hissued := by
    have hidentity : lease.identity = a := identity_of_issued hissued
    refine (lease_current_iff hissued).mpr ⟨by simp, fun identity hmem => ?_⟩
    rw [hidentity]
    simpa using hmem
  generation_mono i j hij := by
    -- The count of changes only grows with the list.
    have hextends : observations.take j =
        observations.take i ++ (observations.take j).drop i := by
      have htake : (observations.take j).take i = observations.take i := by
        rw [List.take_take, Nat.min_eq_left hij]
      rw [← htake, List.take_append_drop]
    rw [(observeAll_closedForm _).generation, (observeAll_closedForm _).generation, hextends,
      seen_append]
    exact Changes.count_le_append _ _
  generation_eq := (observeAll_closedForm observations).generation

/-! ## The tracker as a lease source -/

end RuntimeGenerationTracker

/-- A change of the source; `none` where it is not one that the source admits. -/
def LeaseHistory.step (r : LeaseHistory) (next : Option RuntimeLease) : Option LeaseHistory :=
  if r.Admits next then some (r.change next) else none

namespace RuntimeGenerationTracker

/-- What the tracker hands out after each of the observations. -/
def leases (t : RuntimeGenerationTracker) : List (Option RuntimeIdentity) →
    List (Option RuntimeLease)
  | [] => []
  | observation :: rest =>
    (t.observe observation).lease? :: leases (t.observe observation) rest

/-- What the tracker hands out is a run of a lease source, at whose end the tracker stands. -/
theorem Tracks.observations {t : RuntimeGenerationTracker} {r : LeaseHistory} (h : t.Tracks r)
    (observations : List (Option RuntimeIdentity)) :
    ∃ r', Machine.exec LeaseHistory.step r (t.leases observations) = some r' ∧
      (observations.foldl RuntimeGenerationTracker.observe t).Tracks r' := by
  induction observations generalizing t r with
  | nil => exact ⟨r, rfl, h⟩
  | cons observation rest ih =>
    obtain ⟨hadmits, htracks⟩ := h.observe observation
    obtain ⟨r', hrun, hlast⟩ := ih htracks
    exact ⟨r', Machine.exec_cons_eq_some.mpr ⟨_, if_pos hadmits, hrun⟩, hlast⟩

/-- The tracker and the source at whose end it stands take the same leases for current. -/
theorem Tracks.assertRuntimeLeaseCurrent_iff {t : RuntimeGenerationTracker} {r : LeaseHistory}
    (h : t.Tracks r) :
    r.assertRuntimeLeaseCurrent lease = .ok () ↔ t.assertRuntimeLeaseCurrent lease = .ok () := by
  rw [LeaseHistory.assertRuntimeLeaseCurrent_eq_ok, assertRuntimeLeaseCurrent_eq_ok, ← h.current,
    lease?]
  cases t.getCurrentRuntimeLease <;> simp [Except.toOption]

end RuntimeGenerationTracker

end Threadwire
