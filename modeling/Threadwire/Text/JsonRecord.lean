import Mathlib.Data.List.Dedup
import Mathlib.Data.List.Forall2
import Mathlib.Data.List.Sort
import Mathlib.Data.Option.Basic
import Threadwire.Text.JsonText

/-!
# JSON objects as records

A program reads an object through its keys and its properties: the order of the members, and members
that a later one of the same name hides, make no difference to it. `Json.Value.Same` is equality up
to that, at every depth. `same_object_iff` says that an object is the same as one that is written
down when it has exactly its keys and the same values under them, which is what a strict reader
checks.
-/

namespace Json

/-- `keys.sort()`, by code units. -/
def sortKeys (keys : List Text) : List Text := keys.mergeSort fun a b => decide (a ≤ b)

/-- Lists without repetitions are sorted to the same list when they hold the same. -/
theorem sortKeys_eq_iff {as bs : List Text} (has : as.Nodup) (hbs : bs.Nodup) :
    sortKeys as = sortKeys bs ↔ ∀ name, name ∈ as ↔ name ∈ bs := by
  constructor
  · intro h name
    rw [← List.mem_mergeSort (l := as), ← List.mem_mergeSort (l := bs)]
    exact iff_of_eq (congrArg (name ∈ ·) h)
  · intro h
    have hperm : (sortKeys as).Perm (sortKeys bs) :=
      (List.mergeSort_perm as _).trans
        (((List.perm_ext_iff_of_nodup has hbs).mpr h).trans (List.mergeSort_perm bs _).symm)
    exact hperm.eq_of_pairwise' (List.pairwise_mergeSort' _ _) (List.pairwise_mergeSort' _ _)

namespace Value

/-- The induction of values: an array or an object by what it holds. -/
@[elab_as_elim]
theorem induct {P : Value → Prop} (null : P .null) (bool : ∀ b, P (.bool b))
    (number : ∀ spelling, P (.number spelling)) (string : ∀ units, P (.string units))
    (array : ∀ items, (∀ v ∈ items, P v) → P (.array items))
    (object : ∀ members, (∀ m ∈ members, P m.2) → P (.object members)) (v : Value) : P v := by
  refine @Value.rec P (fun items => ∀ v ∈ items, P v) (fun members => ∀ m ∈ members, P m.2)
    (fun m => P m.2) null bool number string array object ?_ ?_ ?_ ?_ ?_ v
  · intro v hv
    exact absurd hv List.not_mem_nil
  · intro v items hv hitems
    exact List.forall_mem_cons.mpr ⟨hv, hitems⟩
  · intro m hm
    exact absurd hm List.not_mem_nil
  · intro m members hm hmembers
    exact List.forall_mem_cons.mpr ⟨hm, hmembers⟩
  · intro name v hv
    exact hv

/-- `Object.keys`, in the order of the members. -/
def keys : Value → List Text
  | .object members => (members.map Prod.fst).dedup
  | _ => []

/-- Two values that no program which reads properties tells apart. -/
inductive Same : Value → Value → Prop
  | null : Same .null .null
  | bool (b : Bool) : Same (.bool b) (.bool b)
  | number (spelling : Text) : Same (.number spelling) (.number spelling)
  | string (units : Text) : Same (.string units) (.string units)
  | array {items items' : List Value} (h : List.Forall₂ Same items items') :
      Same (.array items) (.array items')
  | object {members members' : List (Text × Value)}
      (h : ∀ name, Option.Rel Same ((object members).property? name)
        ((object members').property? name)) : Same (.object members) (.object members')

variable {members fields : List (Text × Value)} {name : Text}

theorem same_string_iff {v : Value} {units : Text} :
    Same v (.string units) ↔ v = .string units := by
  constructor
  · intro h
    cases h
    rfl
  · rintro rfl
    exact .string units

/-- A property is one of the members. -/
theorem mem_of_property? {v : Value} (h : (object members).property? name = some v) :
    (name, v) ∈ members := by
  rw [property?, Option.map_eq_some_iff] at h
  obtain ⟨m, hm, rfl⟩ := h
  have hname : m.1 = name := by simpa using List.find?_some hm
  rw [← hname]
  exact List.mem_reverse.mp (List.mem_of_find?_eq_some hm)

theorem Same.refl (v : Value) : Same v v := by
  induction v using induct with
  | null => exact .null
  | bool b => exact .bool b
  | number spelling => exact .number spelling
  | string units => exact .string units
  | array items ih => exact .array (List.forall₂_same.mpr ih)
  | object members ih =>
    refine .object fun name => ?_
    cases hv : (Value.object members).property? name with
    | none => exact .none
    | some v => exact .some (ih _ (mem_of_property? hv))

theorem isSome_property?_iff :
    ((object members).property? name).isSome = true ↔ name ∈ (object members).keys := by
  rw [property?, keys, List.mem_dedup, Option.isSome_map, List.find?_isSome, List.mem_map]
  constructor
  · rintro ⟨m, hm, hname⟩
    exact ⟨m, List.mem_reverse.mp hm, by simpa using hname⟩
  · rintro ⟨m, hm, rfl⟩
    exact ⟨m, List.mem_reverse.mpr hm, by simp⟩

/-- Where no name is repeated, every member is a property. -/
theorem property?_of_mem {v : Value} (hnames : (fields.map Prod.fst).Nodup)
    (h : (name, v) ∈ fields) : (object fields).property? name = some v := by
  have hkey : name ∈ (object fields).keys :=
    List.mem_dedup.mpr (List.mem_map.mpr ⟨(name, v), h, rfl⟩)
  obtain ⟨w, hw⟩ := Option.isSome_iff_exists.mp (isSome_property?_iff.mpr hkey)
  have hsame : ((name, w) : Text × Value) = (name, v) :=
    List.inj_on_of_nodup_map hnames (mem_of_property? hw) h rfl
  rw [hw, (Prod.mk.inj hsame).2]

/-- An object is the same as one that is written down, if it has its keys and no others, and the
same values under them. -/
theorem same_object_iff (hnames : (fields.map Prod.fst).Nodup) :
    Same (object members) (object fields) ↔
      sortKeys (object members).keys = sortKeys (fields.map Prod.fst) ∧
        ∀ f ∈ fields, ∃ v, (object members).property? f.1 = some v ∧ Same v f.2 := by
  have hfield : ∀ name, ((object fields).property? name).isSome = true ↔
      name ∈ fields.map Prod.fst := by
    intro name
    rw [isSome_property?_iff, keys, List.mem_dedup]
  have hnodup : (object members).keys.Nodup := List.nodup_dedup _
  -- Both lists of keys are without repetition, so that comparing them sorted compares them as sets.
  rw [sortKeys_eq_iff hnodup hnames]
  constructor
  · intro h
    cases h with
    | object h =>
      constructor
      · intro name
        rw [← hfield, ← isSome_property?_iff]
        have hrel := h name
        generalize (object members).property? name = v at hrel ⊢
        generalize (object fields).property? name = w at hrel ⊢
        cases hrel <;> simp
      · intro f hf
        have hsome := property?_of_mem hnames hf
        have hrel := h f.1
        rw [hsome] at hrel
        cases hv : (object members).property? f.1 with
        | none => rw [hv] at hrel; cases hrel
        | some v =>
          rw [hv] at hrel
          exact ⟨v, rfl, Option.rel_some_some.mp hrel⟩
  · rintro ⟨hkeys, hvalues⟩
    refine .object fun name => ?_
    -- Under a name that is no key, neither object has a value.
    by_cases hname : name ∈ fields.map Prod.fst
    · obtain ⟨f, hf, rfl⟩ := List.mem_map.mp hname
      obtain ⟨v, hv, hsame⟩ := hvalues f hf
      rw [hv, property?_of_mem hnames hf]
      exact .some hsame
    · have hnone : ¬((object members).property? name).isSome = true := by
        rwa [isSome_property?_iff, hkeys]
      have hnone' : ¬((object fields).property? name).isSome = true := by rwa [hfield]
      rw [Option.not_isSome_iff_eq_none] at hnone hnone'
      rw [hnone, hnone']
      exact .none

end Value

end Json
