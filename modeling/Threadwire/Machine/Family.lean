import Mathlib.Data.List.Induction
import Threadwire.Machine.Runs

/-!
# Families of machines

A family is a list of machines of one kind that share a value. A newcomer looks at the shared value
when it joins, and after that a member moves by its own inputs; a move may change the shared value
and does not read it. Two facts follow once for every family: a member is a run of its own inputs,
whatever the others do (`members_run`), and a shared counter that every join and every move corrects
by what it changes is the number of members that hold something (`Counts.shared_eq_countP`).
-/

namespace Machine

/-- Machines that share a value. -/
structure Family (κ σ : Type) where
  shared : κ
  members : List σ := []

namespace Family

variable {κ σ ν ι : Type}

/-- How a newcomer joins, and how a member moves. -/
structure Rules (κ σ ν ι : Type) where
  join : κ → ν → σ × κ
  move : σ → ι → Option (σ × (κ → κ))

/-- What can happen to a family. -/
inductive Input (ν ι : Type) where
  | join (newcomer : ν)
  | move (position : ℕ) (input : ι)

namespace Rules

variable (rules : Rules κ σ ν ι)

/-- One member by itself. -/
def own (s : σ) (input : ι) : Option σ := (rules.move s input).map Prod.fst

/-- One input of the family. -/
def step (family : Family κ σ) : Input ν ι → Option (Family κ σ)
  | .join newcomer =>
    let (s, shared) := rules.join family.shared newcomer
    some { shared, members := family.members ++ [s] }
  | .move position input => do
    let s ← family.members[position]?
    let (s', change) ← rules.move s input
    some { shared := change family.shared, members := family.members.set position s' }

end Rules

/-- The newcomers among the inputs. -/
def joiners (inputs : List (Input ν ι)) : List ν :=
  inputs.filterMap fun
    | .join newcomer => some newcomer
    | .move _ _ => none

/-- The inputs of one member. -/
def inputsOf (position : ℕ) (inputs : List (Input ν ι)) : List ι :=
  inputs.filterMap fun
    | .join _ => none
    | .move position' input => if position' = position then some input else none

section Members

variable {rules : Rules κ σ ν ι} {family family' : Family κ σ} {position : ℕ}

/-- What a move does to the family. -/
theorem step_move {input : ι} :
    rules.step family (.move position input) = some family' ↔
      ∃ s s' change, family.members[position]? = some s ∧ rules.move s input = some (s', change) ∧
        family' = { shared := change family.shared
                    members := family.members.set position s' } := by
  simp only [Rules.step, Option.bind_eq_bind, Option.bind_eq_some_iff, Option.some.injEq,
    Prod.exists]
  constructor
  · rintro ⟨s, hs, s', change, hmove, rfl⟩
    exact ⟨s, s', change, hs, hmove, rfl⟩
  · rintro ⟨s, s', change, hs, hmove, rfl⟩
    exact ⟨s, hs, s', change, hmove, rfl⟩

theorem inputsOf_concat_join (inputs : List (Input ν ι)) (newcomer : ν) :
    inputsOf position (inputs ++ [.join newcomer]) = inputsOf position inputs := by
  rw [inputsOf, List.filterMap_append]
  exact List.append_nil _

theorem inputsOf_concat_self (inputs : List (Input ν ι)) (input : ι) :
    inputsOf position (inputs ++ [.move position input]) = inputsOf position inputs ++ [input] := by
  simp [inputsOf, List.filterMap_append]

theorem inputsOf_concat_ne (inputs : List (Input ν ι)) (input : ι) {position' : ℕ}
    (h : position' ≠ position) :
    inputsOf position (inputs ++ [.move position' input]) = inputsOf position inputs := by
  simp [inputsOf, List.filterMap_append, h]

theorem joiners_concat_join (inputs : List (Input ν ι)) (newcomer : ν) :
    joiners (inputs ++ [.join newcomer]) = joiners inputs ++ [newcomer] := by
  simp [joiners, List.filterMap_append]

theorem joiners_concat_move (inputs : List (Input ν ι)) (input : ι) :
    joiners (inputs ++ [.move position input]) = joiners inputs := by
  simp [joiners, List.filterMap_append]

/-- A run that ends with an input. -/
theorem exec_concat {shared : κ} {inputs : List (Input ν ι)} {input : Input ν ι}
    (hrun : exec rules.step { shared } (inputs ++ [input]) = some family) :
    ∃ before, exec rules.step { shared } inputs = some before ∧
      rules.step before input = some family := by
  obtain ⟨before, hbefore, hlast⟩ := exec_append_eq_some.mp hrun
  obtain ⟨after, hstep, hafter⟩ := exec_cons_eq_some.mp hlast
  obtain rfl := Option.some.inj hafter
  exact ⟨before, hbefore, hstep⟩

/-- Who has not joined has had no input. -/
theorem inputsOf_eq_nil {shared : κ} {inputs : List (Input ν ι)}
    (hrun : exec rules.step { shared } inputs = some family)
    (hposition : family.members.length ≤ position) : inputsOf position inputs = [] := by
  induction inputs using List.reverseRecOn generalizing family with
  | nil => rfl
  | append_singleton inputs input ih =>
    obtain ⟨before, hbefore, hstep⟩ := exec_concat hrun
    cases input with
    | join newcomer =>
      obtain rfl := Option.some.inj hstep
      rw [inputsOf_concat_join]
      refine ih hbefore (Nat.le_trans ?_ hposition)
      simp
    | move position' input =>
      obtain ⟨s, s', change, hs, hmove, rfl⟩ := step_move.mp hstep
      rw [List.length_set] at hposition
      have hjoined : position' < before.members.length := (List.getElem?_eq_some_iff.mp hs).1
      rw [inputsOf_concat_ne _ _ (by omega)]
      exact ih hbefore hposition

/-- A member has run through its own inputs: the others make no difference to it after it joined. -/
theorem members_run {shared : κ} {inputs : List (Input ν ι)}
    (hrun : exec rules.step { shared } inputs = some family) :
    family.members.length = (joiners inputs).length ∧
      ∀ position s, family.members[position]? = some s → ∃ newcomer shared,
        (joiners inputs)[position]? = some newcomer ∧
          exec rules.own (rules.join shared newcomer).1 (inputsOf position inputs) = some s := by
  induction inputs using List.reverseRecOn generalizing family with
  | nil =>
    obtain rfl := Option.some.inj hrun
    exact ⟨rfl, fun position s hs => by cases hs⟩
  | append_singleton inputs input ih =>
    obtain ⟨before, hbefore, hstep⟩ := exec_concat hrun
    obtain ⟨hlength, hmembers⟩ := ih hbefore
    cases input with
    | join newcomer =>
      obtain rfl := Option.some.inj hstep
      rw [joiners_concat_join]
      refine ⟨by simp [hlength], fun position s hs => ?_⟩
      rw [inputsOf_concat_join]
      rcases Nat.lt_trichotomy position before.members.length with hold | rfl | hout
      · -- A member of before: the newcomer is behind it.
        rw [List.getElem?_append_left hold] at hs
        rw [List.getElem?_append_left (hlength ▸ hold)]
        exact hmembers position s hs
      · -- The newcomer has had no input yet.
        rw [List.getElem?_concat_length, Option.some.injEq] at hs
        rw [inputsOf_eq_nil hbefore (Nat.le_refl _), hlength, List.getElem?_concat_length]
        exact ⟨newcomer, before.shared, rfl, congrArg some hs⟩
      · rw [List.getElem?_eq_none (by simp; omega)] at hs
        cases hs
    | move position' input =>
      obtain ⟨s', s'', change, hs', hmove, rfl⟩ := step_move.mp hstep
      rw [joiners_concat_move]
      refine ⟨by rw [List.length_set, hlength], fun position s hs => ?_⟩
      by_cases hposition : position' = position
      · subst hposition
        have hjoined : position' < before.members.length := (List.getElem?_eq_some_iff.mp hs').1
        rw [List.getElem?_set_self hjoined, Option.some.injEq] at hs
        obtain ⟨newcomer, shared', hjoin, hown⟩ := hmembers position' s' hs'
        refine ⟨newcomer, shared', hjoin, ?_⟩
        rw [inputsOf_concat_self]
        refine exec_append_eq_some.mpr ⟨s', hown, ?_⟩
        rw [exec_cons, Rules.own, hmove, ← hs]
        rfl
      · rw [List.getElem?_set_ne hposition] at hs
        rw [inputsOf_concat_ne _ _ hposition]
        exact hmembers position s hs

end Members

/-! ## Shared counters -/

section Counters

variable {rules : Rules ℕ σ ν ι} {family family' : Family ℕ σ} {holds : σ → Bool}

/-- The shared value counts the members that hold something: a join adds the newcomer if it does,
and a move corrects the count by what it changes for its member. -/
structure Counts (rules : Rules ℕ σ ν ι) (holds : σ → Bool) : Prop where
  join : ∀ count newcomer,
    (rules.join count newcomer).2 = count + (holds (rules.join count newcomer).1).toNat
  move : ∀ s input s' change, rules.move s input = some (s', change) →
    ∀ count, (holds s).toNat ≤ count →
      change count + (holds s).toNat = count + (holds s').toNat

theorem toNat_le_countP {members : List σ} {position : ℕ} {s : σ}
    (hs : members[position]? = some s) : (holds s).toNat ≤ members.countP holds := by
  cases hholds : holds s with
  | false => exact Nat.zero_le _
  | true => exact List.countP_pos_iff.mpr ⟨s, List.mem_of_getElem? hs, hholds⟩

theorem countP_set_add {members : List σ} {position : ℕ} {s s' : σ}
    (hs : members[position]? = some s) :
    (members.set position s').countP holds + (holds s).toNat =
      members.countP holds + (holds s').toNat := by
  have hheld : (holds s).toNat ≤ members.countP holds := toNat_le_countP hs
  obtain ⟨hjoined, rfl⟩ := List.getElem?_eq_some_iff.mp hs
  have hset := List.countP_set (p := holds) (a := s') hjoined
  have hite : ∀ b : Bool, (if b = true then 1 else 0) = b.toNat := by decide
  rw [hite, hite] at hset
  omega

theorem Counts.step (h : Counts rules holds) {input : Input ν ι}
    (hbefore : family.shared = family.members.countP holds)
    (hstep : rules.step family input = some family') :
    family'.shared = family'.members.countP holds := by
  cases input with
  | join newcomer =>
    obtain rfl := Option.some.inj hstep
    show (rules.join family.shared newcomer).2 = _
    rw [List.countP_append, ← hbefore, h.join, List.countP_singleton]
    cases holds (rules.join family.shared newcomer).1 <;> rfl
  | move position input =>
    obtain ⟨s, s', change, hs, hmove, rfl⟩ := step_move.mp hstep
    have hheld : (holds s).toNat ≤ family.shared := hbefore ▸ toNat_le_countP hs
    have hchange := h.move s input s' change hmove family.shared hheld
    have hset : (family.members.set position s').countP holds + (holds s).toNat =
        family.members.countP holds + (holds s').toNat := countP_set_add hs
    show change family.shared = (family.members.set position s').countP holds
    omega

/-- In every run the shared value is the number of members that hold something. -/
theorem Counts.shared_eq_countP (h : Counts rules holds) {inputs : List (Input ν ι)}
    (hrun : exec rules.step { shared := 0 } inputs = some family) :
    family.shared = family.members.countP holds :=
  exec_invariant (I := fun family => family.shared = family.members.countP holds)
    (fun _ _ _ hbefore hstep => h.step hbefore hstep) rfl hrun

end Counters

end Family

end Machine
