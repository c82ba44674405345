import Mathlib.Data.List.Nodup
import Mathlib.Logic.Relation

/-!
# Ids and their children

A table that gives some ids a list of children is a graph of any shape: a child may have no entry,
or be a child of several ids, or of one of its own descendants. `generation n` lists what is `n`
steps below some ids, each as often as it is reached, so the table is a forest below them when no
generation repeats an id and no two generations share one.

`Explores` is a traversal with a list of pending ids that gives up at an id it has seen and at an id
without an entry. It goes to its end exactly on forests, in whatever order it takes the children.
-/

namespace Generations

variable {α : Type} (children : α → Option (List α))

/-- The children of an id. An id without an entry has none. -/
def childrenOf (a : α) : List α := (children a).getD []

/-- `b` is a child of `a`. -/
def IsChild (a b : α) : Prop := b ∈ childrenOf children a

/-- The ids that are `n` steps below these, each as often as it is reached. -/
def generation : ℕ → List α → List α
  | 0, ids => ids
  | n + 1, ids => generation n (ids.flatMap (childrenOf children))

/-- Every id that is reached has an entry, and is reached once. -/
structure IsForest (ids : List α) : Prop where
  resolves : ∀ n, ∀ a ∈ generation children n ids, (children a).isSome = true
  nodup : ∀ n, (generation children n ids).Nodup
  disjoint : ∀ m n, m ≠ n → (generation children m ids).Disjoint (generation children n ids)

/-- Nothing is reached from both. -/
def Apart (ids ids' : List α) : Prop :=
  ∀ m n, (generation children m ids).Disjoint (generation children n ids')

/-- What the traversal expects of its pending ids: a forest of ids that it has not seen. -/
structure Clean (seen ids : List α) : Prop extends IsForest children ids where
  unseen : ∀ n, ∀ a ∈ generation children n ids, a ∉ seen

/-- A traversal of the pending ids, with what it visits if it does not give up. -/
inductive Explores : List α → List α → Option (List α) → Prop
  | finished (seen : List α) : Explores seen [] (some [])
  | again {seen pending : List α} {a : α} (hseen : a ∈ seen) : Explores seen (a :: pending) none
  | missing {seen pending : List α} {a : α} (hmissing : children a = none) :
    Explores seen (a :: pending) none
  | visit {seen pending ids ids' : List α} {a : α} {visited : Option (List α)} (hseen : a ∉ seen)
    (hchildren : children a = some ids) (horder : ids'.Perm ids)
    (hrest : Explores (a :: seen) (ids' ++ pending) visited) :
    Explores seen (a :: pending) (visited.map fun visited => a :: visited)

variable {children} {seen pending ids ids' : List α} {a b : α}

/-! ## Generations -/

theorem childrenOf_of_some (h : children a = some ids) : childrenOf children a = ids := by
  rw [childrenOf, h, Option.getD_some]

theorem generation_append (n : ℕ) : generation children n (ids ++ ids') =
    generation children n ids ++ generation children n ids' := by
  induction n generalizing ids ids' with
  | zero => rfl
  | succ n ih =>
    simp only [generation, List.flatMap_append]
    exact ih

theorem generation_perm (n : ℕ) (h : ids.Perm ids') :
    (generation children n ids).Perm (generation children n ids') := by
  induction n generalizing ids ids' with
  | zero => exact h
  | succ n ih => exact ih (h.flatMap_right _)

/-- The next generation of an id are its children's. -/
theorem generation_singleton (h : children a = some ids) (n : ℕ) :
    generation children (n + 1) [a] = generation children n ids := by
  rw [generation, List.flatMap_singleton, childrenOf_of_some h]

/-- What is in some generation is what can be reached. -/
theorem exists_mem_generation :
    (∃ n, b ∈ generation children n ids) ↔
      ∃ a ∈ ids, Relation.ReflTransGen (IsChild children) a b := by
  constructor
  · rintro ⟨n, hmem⟩
    induction n generalizing ids with
    | zero => exact ⟨b, hmem, .refl⟩
    | succ n ih =>
      obtain ⟨c, hc, hreach⟩ := ih hmem
      obtain ⟨a, ha, hchild⟩ := List.mem_flatMap.mp hc
      exact ⟨a, ha, .head hchild hreach⟩
  · rintro ⟨a, ha, hreach⟩
    induction hreach using Relation.ReflTransGen.head_induction_on generalizing ids with
    | refl => exact ⟨0, ha⟩
    | head hchild _ ih =>
      obtain ⟨n, hmem⟩ := ih (List.mem_flatMap.mpr ⟨_, ha, hchild⟩)
      exact ⟨n + 1, hmem⟩

/-! ## Forests -/

theorem isForest_append : IsForest children (ids ++ ids') ↔
    IsForest children ids ∧ IsForest children ids' ∧ Apart children ids ids' := by
  constructor
  · intro h
    have hnodup := h.nodup
    have hdisjoint := h.disjoint
    have hresolves := h.resolves
    simp only [generation_append, List.nodup_append', List.disjoint_append_left,
      List.disjoint_append_right, List.mem_append] at hnodup hdisjoint hresolves
    refine ⟨⟨fun n a ha => hresolves n a (.inl ha), fun n => (hnodup n).1,
      fun m n hne => (hdisjoint m n hne).1.1⟩, ⟨fun n a ha => hresolves n a (.inr ha),
      fun n => (hnodup n).2.1, fun m n hne => (hdisjoint m n hne).2.2⟩, fun m n => ?_⟩
    by_cases hne : m = n
    · subst hne
      exact (hnodup m).2.2
    · exact (hdisjoint m n hne).2.1
  · rintro ⟨h, h', hapart⟩
    constructor
    · intro n a ha
      rw [generation_append, List.mem_append] at ha
      exact ha.elim (h.resolves n a) (h'.resolves n a)
    · intro n
      rw [generation_append, List.nodup_append']
      exact ⟨h.nodup n, h'.nodup n, hapart n n⟩
    · intro m n hne
      simp only [generation_append, List.disjoint_append_left, List.disjoint_append_right]
      exact ⟨⟨h.disjoint m n hne, fun _ ha ha' => hapart n m ha' ha⟩, hapart m n, h'.disjoint m n hne⟩

theorem IsForest.perm (h : IsForest children ids) (hperm : ids.Perm ids') :
    IsForest children ids' where
  resolves n a ha := h.resolves n a ((generation_perm n hperm).mem_iff.mpr ha)
  nodup n := (generation_perm n hperm).nodup_iff.mp (h.nodup n)
  disjoint m n hne _ ha ha' :=
    h.disjoint m n hne ((generation_perm m hperm).mem_iff.mpr ha)
      ((generation_perm n hperm).mem_iff.mpr ha')

/-- An id is the root of a tree when its children are those of a forest that does not have it. -/
theorem isForest_singleton (hchildren : children a = some ids) : IsForest children [a] ↔
    IsForest children ids ∧ ∀ n, a ∉ generation children n ids := by
  have hsucc := generation_singleton hchildren
  constructor
  · intro h
    refine ⟨⟨fun n b hb => h.resolves (n + 1) b ?_, fun n => ?_, fun m n hne => ?_⟩, fun n hmem => ?_⟩
    · rwa [hsucc]
    · rw [← hsucc]
      exact h.nodup (n + 1)
    · rw [← hsucc, ← hsucc]
      exact h.disjoint (m + 1) (n + 1) (by omega)
    · rw [← hsucc] at hmem
      exact h.disjoint 0 (n + 1) (by omega) (List.mem_singleton_self a) hmem
  · rintro ⟨h, hroot⟩
    refine ⟨fun n b hb => ?_, fun n => ?_, fun m n hne b hb hb' => ?_⟩
    · cases n with
      | zero =>
        rw [List.mem_singleton.mp hb, hchildren, Option.isSome_some]
      | succ n => exact h.resolves n b (hsucc n ▸ hb)
    · cases n with
      | zero => exact List.nodup_singleton a
      | succ n =>
        rw [hsucc]
        exact h.nodup n
    · -- Only one of the two generations can be that of the root.
      cases m with
      | zero =>
        cases n with
        | zero => exact hne rfl
        | succ n =>
          rw [List.mem_singleton.mp hb, hsucc] at hb'
          exact hroot n hb'
      | succ m =>
        rw [hsucc] at hb
        cases n with
        | zero =>
          rw [List.mem_singleton.mp hb'] at hb
          exact hroot m hb
        | succ n =>
          rw [hsucc] at hb'
          exact h.disjoint m n (by omega) hb hb'

theorem apart_singleton (hchildren : children a = some ids) : Apart children [a] ids' ↔
    (∀ n, a ∉ generation children n ids') ∧ Apart children ids ids' := by
  have hsucc := generation_singleton hchildren
  constructor
  · intro h
    refine ⟨fun n hmem => h 0 n (List.mem_singleton_self a) hmem, fun m n => ?_⟩
    rw [← hsucc]
    exact h (m + 1) n
  · rintro ⟨hroot, h⟩ m n b hb hb'
    cases m with
    | zero =>
      rw [List.mem_singleton.mp hb] at hb'
      exact hroot n hb'
    | succ m =>
      rw [hsucc] at hb
      exact h m n hb hb'

/-! ## The traversal -/

theorem clean_iff : Clean children seen ids ↔
    IsForest children ids ∧ ∀ n, ∀ a ∈ generation children n ids, a ∉ seen :=
  ⟨fun h => ⟨h.toIsForest, h.unseen⟩, fun h => ⟨h.1, h.2⟩⟩

theorem clean_nil : Clean children seen [] := by
  have hempty : ∀ n, generation children n ([] : List α) = [] := fun n => by
    induction n with
    | zero => rfl
    | succ n ih => exact ih
  refine ⟨⟨fun n a ha => ?_, fun n => ?_, fun m n _ a ha => ?_⟩, fun n a ha => ?_⟩
  · rw [hempty] at ha
    exact nomatch ha
  · rw [hempty]
    exact List.nodup_nil
  · rw [hempty] at ha
    exact nomatch ha
  · rw [hempty] at ha
    exact nomatch ha

/-- Visiting an id leaves what is expected as it is. -/
theorem clean_visit (hseen : a ∉ seen) (hchildren : children a = some ids)
    (horder : ids'.Perm ids) : Clean children (a :: seen) (ids' ++ pending) ↔
      Clean children seen (a :: pending) := by
  have hperm : (ids' ++ pending).Perm (ids ++ pending) := horder.append_right pending
  have hforest : IsForest children (ids' ++ pending) ↔ IsForest children (ids ++ pending) :=
    ⟨fun h => h.perm hperm, fun h => h.perm hperm.symm⟩
  -- What can be reached from the children and from the rest is reached from one of them.
  have hmem : ∀ n b, b ∈ generation children n (ids' ++ pending) ↔
      b ∈ generation children n ids ∨ b ∈ generation children n pending := by
    intro n b
    rw [(generation_perm n hperm).mem_iff, generation_append, List.mem_append]
  have hcons : ∀ n b, b ∈ generation children n (a :: pending) ↔
      b ∈ generation children n [a] ∨ b ∈ generation children n pending := by
    intro n b
    rw [← List.singleton_append, generation_append, List.mem_append]
  have hvisit : IsForest children (a :: pending) ↔ IsForest children ([a] ++ pending) := Iff.rfl
  rw [clean_iff, clean_iff, hforest, hvisit, isForest_append, isForest_append,
    isForest_singleton hchildren, apart_singleton hchildren]
  simp only [hmem, hcons, List.mem_cons, not_or]
  -- The root is apart from all that comes after it, which is what putting it with the seen ids
  -- says.
  constructor
  · rintro ⟨⟨h, h', hapart⟩, hunseen⟩
    have hroot : ∀ n, a ∉ generation children n ids :=
      fun n hroot => (hunseen n a (.inl hroot)).1 rfl
    have hroot' : ∀ n, a ∉ generation children n pending :=
      fun n hroot => (hunseen n a (.inr hroot)).1 rfl
    refine ⟨⟨⟨h, hroot⟩, h', hroot', hapart⟩, fun n b hb => ?_⟩
    rcases hb with hb | hb
    · cases n with
      | zero => rwa [List.mem_singleton.mp hb]
      | succ n =>
        rw [generation_singleton hchildren] at hb
        exact (hunseen n b (.inl hb)).2
    · exact (hunseen n b (.inr hb)).2
  · rintro ⟨⟨⟨h, hroot⟩, h', hroot', hapart⟩, hunseen⟩
    refine ⟨⟨h, h', hapart⟩, fun n b hb => ?_⟩
    rcases hb with hb | hb
    · refine ⟨fun heq => hroot n (heq ▸ hb), hunseen (n + 1) b (.inl ?_)⟩
      rwa [generation_singleton hchildren]
    · exact ⟨fun heq => hroot' n (heq ▸ hb), hunseen n b (.inr hb)⟩

/-- The traversal goes to its end exactly on forests of ids that it has not seen, and visits what
can be reached, once. -/
theorem Explores.spec {visited : Option (List α)} (h : Explores children seen pending visited) :
    (visited.isSome = true ↔ Clean children seen pending) ∧
      ∀ list ∈ visited, list.Nodup ∧ ∀ b, b ∈ list ↔ ∃ n, b ∈ generation children n pending := by
  -- The induction is on the traversal, and each case on how it took its first id.
  induction h with
  | finished seen =>
    refine ⟨iff_of_true rfl clean_nil, fun list hlist => ?_⟩
    cases Option.mem_some_iff.mp hlist
    refine ⟨List.nodup_nil, fun b => ?_⟩
    rw [exists_mem_generation]
    simp
  | @again seen pending a hseen =>
    refine ⟨iff_of_false (fun h => nomatch h) fun hclean => ?_, fun _ h => nomatch h⟩
    exact hclean.unseen 0 a List.mem_cons_self hseen
  | @missing seen pending a hmissing =>
    refine ⟨iff_of_false (fun h => nomatch h) fun hclean => ?_, fun _ h => nomatch h⟩
    have hresolves := hclean.resolves 0 a List.mem_cons_self
    rw [hmissing] at hresolves
    exact nomatch hresolves
  | @visit seen pending ids ids' a visited hseen hchildren horder _ ih =>
    refine ⟨?_, fun list hlist => ?_⟩
    · rw [Option.isSome_map, ih.1]
      exact clean_visit hseen hchildren horder
    obtain ⟨rest, hrest, rfl⟩ := Option.map_eq_some_iff.mp hlist
    obtain ⟨hnodup, hmem⟩ := ih.2 rest hrest
    refine ⟨List.nodup_cons.mpr ⟨fun hroot => ?_, hnodup⟩, fun b => ?_⟩
    · -- The root is not visited again: it is among the seen ids of the rest.
      obtain ⟨n, hn⟩ := (hmem a).mp hroot
      have hclean := ih.1.mp (Option.isSome_of_mem hrest)
      exact hclean.unseen n a hn List.mem_cons_self
    · -- What can be reached from the root is the root itself and what its children reach.
      have hchildrenOf := childrenOf_of_some hchildren
      rw [List.mem_cons, hmem, exists_mem_generation, exists_mem_generation]
      simp only [List.mem_append, List.mem_cons, or_and_right, exists_or, exists_eq_left]
      rw [Relation.ReflTransGen.cases_head_iff, or_assoc]
      refine or_congr eq_comm (or_congr (exists_congr fun c => and_congr ?_ Iff.rfl) Iff.rfl)
      rw [IsChild, hchildrenOf, horder.mem_iff]

end Generations
