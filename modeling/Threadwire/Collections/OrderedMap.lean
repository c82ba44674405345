import Mathlib.Data.List.Induction
import Mathlib.Data.List.Nodup
import Mathlib.Tactic.Common

/-!
# Insertion-ordered maps

The map type of scripting languages: a finite map that remembers the order in which its keys were
first inserted. Setting a present key replaces its value in place; setting a new key appends it;
deleting a key leaves the order of the others. The representation carries the proof that no key
occurs twice, so lookups and updates need no side condition.
-/

/-- A finite map with distinct keys, in insertion order. -/
structure OrderedMap (K V : Type) where
  entries : List (K × V)
  nodup : (entries.map Prod.fst).Nodup

namespace OrderedMap

variable {K V : Type}

/-- A map is its entries. -/
@[ext] theorem ext {m n : OrderedMap K V} (h : m.entries = n.entries) : m = n := by
  cases m; cases n; cases h; rfl

/-- The map with no entries. -/
def empty : OrderedMap K V := ⟨[], List.nodup_nil⟩

/-- The keys, in insertion order. -/
def keys (m : OrderedMap K V) : List K := m.entries.map Prod.fst

variable [DecidableEq K]

/-- Look a key up in a list of entries. -/
def find : List (K × V) → K → Option V
  | [], _ => none
  | (k', v) :: rest, k => if k' = k then some v else find rest k

/-- Replace the value of a key that is present. -/
def replace : List (K × V) → K → V → List (K × V)
  | [], _, _ => []
  | (k', v') :: rest, k, v => if k' = k then (k', v) :: rest else (k', v') :: replace rest k v

/-- The value of a key, if it has one. -/
def get? (m : OrderedMap K V) (k : K) : Option V := find m.entries k

/-- Whether a key is present. -/
def has (m : OrderedMap K V) (k : K) : Bool := (m.get? k).isSome

/-- A key has no value exactly when it is not among the keys. -/
theorem find_eq_none {l : List (K × V)} {k : K} : find l k = none ↔ k ∉ l.map Prod.fst := by
  induction l with
  | nil => simp [find]
  | cons p rest ih =>
    obtain ⟨k', v⟩ := p
    by_cases hk : k' = k
    · simp [find, hk]
    · simp [find, hk, ih, Ne.symm hk]

/-- Replacing a value leaves the keys and their order. -/
theorem map_fst_replace (l : List (K × V)) (k : K) (v : V) :
    (replace l k v).map Prod.fst = l.map Prod.fst := by
  induction l with
  | nil => rfl
  | cons p rest ih =>
    obtain ⟨k', v'⟩ := p
    by_cases hk : k' = k <;> simp [replace, hk, ih]

/-- A replaced value is found under its key, and the others as before. -/
theorem find_replace (l : List (K × V)) (k k' : K) (v : V) (hk : k ∈ l.map Prod.fst) :
    find (replace l k v) k' = if k = k' then some v else find l k' := by
  induction l with
  | nil => simp at hk
  | cons p rest ih =>
    obtain ⟨k₀, v₀⟩ := p
    by_cases h₀ : k₀ = k
    · subst h₀
      by_cases hk' : k₀ = k' <;> simp [replace, find, hk']
    · have hrest : k ∈ rest.map Prod.fst := by simpa [Ne.symm h₀] using hk
      simp only [replace, if_neg h₀, find, ih hrest]
      by_cases hk' : k₀ = k'
      · have hne : k ≠ k' := fun h => h₀ (hk'.trans h.symm)
        simp [hk', hne]
      · simp [hk']

/-- Looking up goes through the first list first. -/
theorem find_append (l r : List (K × V)) (k : K) :
    find (l ++ r) k = (find l k).or (find r k) := by
  induction l with
  | nil => rfl
  | cons p rest ih =>
    obtain ⟨k', v⟩ := p
    by_cases hk : k' = k <;> simp [find, hk, ih]

/-- A removed key is not found, and the others are as before. -/
theorem find_filter_ne (l : List (K × V)) (k k' : K) :
    find (l.filter fun p => !decide (p.1 = k)) k' = if k = k' then none else find l k' := by
  induction l with
  | nil => simp [find]
  | cons p rest ih =>
    obtain ⟨k₀, v₀⟩ := p
    by_cases h₀ : k₀ = k
    · rw [List.filter_cons_of_neg (by simp [h₀]), ih]
      by_cases hk' : k = k'
      · simp [hk']
      · simp [find, h₀, hk']
    · rw [List.filter_cons_of_pos (by simp [h₀])]
      by_cases hk' : k₀ = k'
      · have hne : k ≠ k' := fun h => h₀ (hk'.trans h.symm)
        simp [find, hk', hne]
      · simp [find, hk', ih]

/-- Set a key: in place when it is present, at the end when it is new. -/
def set (m : OrderedMap K V) (k : K) (v : V) : OrderedMap K V :=
  if h : k ∈ m.entries.map Prod.fst then
    ⟨replace m.entries k v, by rw [map_fst_replace]; exact m.nodup⟩
  else
    ⟨m.entries ++ [(k, v)], by
      rw [List.map_append, List.map_singleton, List.nodup_append]
      refine ⟨m.nodup, List.nodup_singleton k, ?_⟩
      intro a ha b hb hab
      rw [List.mem_singleton] at hb
      have hak : a = k := hab.trans hb
      exact h (hak ▸ ha)⟩

/-- Remove a key. -/
def delete (m : OrderedMap K V) (k : K) : OrderedMap K V :=
  ⟨m.entries.filter fun p => !decide (p.1 = k),
    (List.Sublist.map Prod.fst List.filter_sublist).nodup m.nodup⟩

/-- The number of entries. -/
def size (m : OrderedMap K V) : ℕ := m.entries.length

/-- The map of a list of entries, set one after the other. -/
def ofEntries (l : List (K × V)) : OrderedMap K V := l.foldl (fun m p => m.set p.1 p.2) empty

/-- No key is in the empty map. -/
@[simp] theorem get?_empty (k : K) : (empty : OrderedMap K V).get? k = none := rfl

/-- A key that was set has its value, and the others are as before. -/
@[grind =] theorem get?_set (m : OrderedMap K V) (k k' : K) (v : V) :
    (m.set k v).get? k' = if k = k' then some v else m.get? k' := by
  unfold set
  by_cases h : k ∈ m.entries.map Prod.fst
  · rw [dif_pos h]
    exact find_replace m.entries k k' v h
  · rw [dif_neg h]
    show find (m.entries ++ [(k, v)]) k' = _
    rw [find_append]
    by_cases hk : k = k'
    · subst hk
      rw [find_eq_none.mpr h]
      simp [find]
    · simp [find, hk, get?]

/-- A deleted key has no value, and the others are as before. -/
@[grind =] theorem get?_delete (m : OrderedMap K V) (k k' : K) :
    (m.delete k).get? k' = if k = k' then none else m.get? k' :=
  find_filter_ne m.entries k k'

/-- A key is present when it has a value. -/
@[grind =] theorem has_iff (m : OrderedMap K V) (k : K) : m.has k = true ↔ ∃ v, m.get? k = some v :=
  Option.isSome_iff_exists

/-- The keys are those that have a value. -/
theorem mem_keys (m : OrderedMap K V) (k : K) : k ∈ m.keys ↔ ∃ v, m.get? k = some v := by
  rw [← Option.isSome_iff_exists, Option.isSome_iff_ne_none, ne_eq, get?, find_eq_none, not_not,
    keys]

/-- Deleting a key that was just inserted restores the map, order included. -/
theorem delete_set (m : OrderedMap K V) (k : K) (v : V) (hk : m.get? k = none) :
    (m.set k v).delete k = m := by
  have hnot : k ∉ m.entries.map Prod.fst := find_eq_none.mp hk
  apply ext
  rw [delete, set, dif_neg hnot]
  show (m.entries ++ [(k, v)]).filter _ = m.entries
  rw [List.filter_append, List.filter_cons_of_neg (by simp), List.filter_nil, List.append_nil,
    List.filter_eq_self]
  intro p hp
  simp only [Bool.not_eq_true', decide_eq_false_iff_not]
  exact fun h => hnot (h ▸ List.mem_map_of_mem hp)

/-! ### Maps of lists -/

/-- Setting a key that is present does not grow the map. -/
theorem size_set (m : OrderedMap K V) (k : K) (v : V) :
    (m.set k v).size = if m.has k then m.size else m.size + 1 := by
  have hhas : m.has k = true ↔ k ∈ m.entries.map Prod.fst := by
    rw [has, get?, Option.isSome_iff_ne_none, ne_eq, find_eq_none, not_not]
  unfold set
  by_cases h : k ∈ m.entries.map Prod.fst
  · have hlength := congrArg List.length (map_fst_replace m.entries k v)
    rw [List.length_map, List.length_map] at hlength
    rw [dif_pos h, if_pos (hhas.mpr h)]
    exact hlength
  · rw [dif_neg h, if_neg (mt hhas.mp h), size, size, List.length_append, List.length_singleton]

/-- A map of entries is built from the left. -/
theorem ofEntries_snoc (l : List (K × V)) (k : K) (v : V) :
    ofEntries (l ++ [(k, v)]) = (ofEntries l).set k v := by
  rw [ofEntries, List.foldl_append]
  rfl

/-- The keys of a map of entries. -/
theorem has_ofEntries (l : List (K × V)) (k : K) :
    (ofEntries l).has k = true ↔ k ∈ l.map Prod.fst := by
  induction l using List.reverseRecOn with
  | nil => exact iff_of_false (fun h => nomatch h) List.not_mem_nil
  | append_singleton l p ih =>
    rw [ofEntries_snoc, has, get?_set, List.map_append, List.mem_append, List.map_singleton,
      List.mem_singleton, ← ih, has]
    by_cases hk : p.1 = k
    · simp [hk]
    · simp [hk, Ne.symm hk]

/-- Only a repeated key makes the map smaller than the list. -/
theorem size_ofEntries (l : List (K × V)) :
    (ofEntries l).size ≤ l.length ∧ ((ofEntries l).size = l.length ↔ (l.map Prod.fst).Nodup) := by
  induction l using List.reverseRecOn with
  | nil => exact ⟨Nat.le_refl 0, iff_of_true rfl List.nodup_nil⟩
  | append_singleton l p ih =>
    obtain ⟨hle, heq⟩ := ih
    rw [ofEntries_snoc, size_set, List.length_append, List.length_singleton, List.map_append,
      List.map_singleton, List.nodup_append]
    by_cases h : p.1 ∈ l.map Prod.fst
    · rw [if_pos ((has_ofEntries l p.1).mpr h)]
      refine ⟨by omega, iff_of_false (by omega) fun hnodup => ?_⟩
      exact hnodup.2.2 p.1 h p.1 (List.mem_singleton_self _) rfl
    · rw [if_neg (mt (has_ofEntries l p.1).mp h)]
      refine ⟨by omega, ?_⟩
      rw [Nat.add_right_cancel_iff, heq]
      refine ⟨fun hnodup => ⟨hnodup, List.nodup_singleton _, ?_⟩, fun hnodup => hnodup.1⟩
      rintro a ha b hb rfl
      exact h (List.mem_singleton.mp hb ▸ ha)

/-- Without repeated keys the map has the entries of the list. -/
theorem get?_ofEntries {l : List (K × V)} (h : (l.map Prod.fst).Nodup) (k : K) (v : V) :
    (ofEntries l).get? k = some v ↔ (k, v) ∈ l := by
  induction l using List.reverseRecOn with
  | nil => exact iff_of_false (fun h => nomatch h) List.not_mem_nil
  | append_singleton l p ih =>
    obtain ⟨k', v'⟩ := p
    rw [List.map_append, List.map_singleton, List.nodup_append] at h
    rw [ofEntries_snoc, get?_set, List.mem_append, List.mem_singleton, Prod.mk.injEq, ← ih h.1]
    by_cases hk : k' = k
    · subst hk
      have hfresh : (ofEntries l).get? k' ≠ some v := by
        intro hget
        have hmem := (has_ofEntries l k').mp ((has_iff _ _).mpr ⟨v, hget⟩)
        exact h.2.2 k' hmem k' (List.mem_singleton_self _) rfl
      simp [hfresh, eq_comm]
    · simp [hk, Ne.symm hk]

end OrderedMap
