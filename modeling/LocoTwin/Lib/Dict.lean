/-
# Lib.Dict -- insertion-ordered maps with one entry per key

A `Dict` is a list of entries in the order in which their keys were first
stored.  No two entries share a key, and that is a field of the structure, so a
dictionary that answers one key twice cannot be built.

* `set` overwrites in place and appends a new key at the end; `pop` removes one;
* `get?_set_self`, `get?_set_ne`, `get?_pop_self`, `get?_pop_ne` read it back;
* `ofPairs` stores pairs one after another, so the last pair of a key wins;
* `restrict` keeps the keys that satisfy a predicate, and commutes with `set`:
  a write outside the predicate is invisible to it (`restrict_set_of_not`);
* `mapValues` and `filterValues` work on the values, key by key (`get?_mapValues`,
  `get?_filterValues`).
-/
import Mathlib.Data.List.Nodup
import Mathlib.Data.List.Induction
import Mathlib.Data.List.Basic

namespace LocoTwin.Lib

set_option autoImplicit false

/-- Entries in insertion order, one for each key. -/
structure Dict (κ ν : Type) where
  entries : List (κ × ν)
  nodup : (entries.map Prod.fst).Nodup
  deriving DecidableEq

/-! ## Entry lists -/

namespace Entries

variable {κ ν : Type} [DecidableEq κ]

def find (k : κ) : List (κ × ν) → Option ν
  | [] => none
  | (k', v) :: rest => if k' = k then some v else find k rest

/-- Overwrite in place, or append. -/
def put (k : κ) (v : ν) : List (κ × ν) → List (κ × ν)
  | [] => [(k, v)]
  | (k', v') :: rest => if k' = k then (k, v) :: rest else (k', v') :: put k v rest

theorem mem_keys_put (k : κ) (v : ν) (l : List (κ × ν)) (x : κ) :
    x ∈ (put k v l).map Prod.fst ↔ x = k ∨ x ∈ l.map Prod.fst := by
  induction l with
  | nil => simp [put]
  | cons e rest ih =>
      obtain ⟨k', v'⟩ := e
      by_cases same : k' = k
      · subst same; simp [put]
      · simp only [put, if_neg same, List.map_cons, List.mem_cons, ih]
        tauto

theorem nodup_put (k : κ) (v : ν) {l : List (κ × ν)} (h : (l.map Prod.fst).Nodup) :
    ((put k v l).map Prod.fst).Nodup := by
  induction l with
  | nil => simp [put]
  | cons e rest ih =>
      obtain ⟨k', v'⟩ := e
      simp only [List.map_cons, List.nodup_cons] at h
      by_cases same : k' = k
      · subst same; simpa [put] using h
      · simp only [put, if_neg same, List.map_cons, List.nodup_cons, mem_keys_put]
        exact ⟨fun hk => hk.elim same h.1, ih h.2⟩

/-- A new key comes last. -/
theorem put_new {k : κ} (v : ν) {l : List (κ × ν)} (new : k ∉ l.map Prod.fst) :
    put k v l = l ++ [(k, v)] := by
  induction l with
  | nil => rfl
  | cons e rest ih =>
      obtain ⟨other, later⟩ := List.ne_and_not_mem_of_not_mem_cons new
      rw [put, if_neg (Ne.symm other), ih later]
      rfl

/-- A value that is there already changes nothing. -/
theorem put_of_find {k : κ} {v : ν} {l : List (κ × ν)} (found : find k l = some v) :
    put k v l = l := by
  induction l with
  | nil => cases found
  | cons e rest ih =>
      obtain ⟨k', v'⟩ := e
      by_cases same : k' = k
      · subst same
        have value : v' = v := by simpa [find] using found
        simp [put, value]
      · rw [put, if_neg same, ih (by simpa [find, same] using found)]

/-- A key that is there keeps its place. -/
theorem keys_put_of_mem {k : κ} (v : ν) {l : List (κ × ν)} (mem : k ∈ l.map Prod.fst) :
    (put k v l).map Prod.fst = l.map Prod.fst := by
  induction l with
  | nil => cases mem
  | cons e rest ih =>
      by_cases same : e.1 = k
      · simp [put, same]
      · have later : k ∈ rest.map Prod.fst :=
          (List.mem_cons.mp mem).resolve_left fun here => same here.symm
        rw [put, if_neg same, List.map_cons, List.map_cons, ih later]

theorem find_put_self (k : κ) (v : ν) (l : List (κ × ν)) : find k (put k v l) = some v := by
  induction l with
  | nil => simp [put, find]
  | cons e rest ih =>
      by_cases same : e.1 = k <;> simp [put, find, same, ih]

theorem find_put_ne {k k' : κ} (ne : k' ≠ k) (v : ν) (l : List (κ × ν)) :
    find k' (put k v l) = find k' l := by
  induction l with
  | nil => simp [put, find, ne.symm]
  | cons e rest ih =>
      by_cases same : e.1 = k
      · simp [put, find, same, ne.symm]
      · simp [put, find, same, ih]

theorem find_eq_none {k : κ} {l : List (κ × ν)} : find k l = none ↔ k ∉ l.map Prod.fst := by
  induction l with
  | nil => simp [find]
  | cons e rest ih =>
      by_cases same : e.1 = k
      · simp [find, same]
      · simp [find, same, ih, Ne.symm same]

theorem find_eq_some {k : κ} {v : ν} {l : List (κ × ν)} (h : (l.map Prod.fst).Nodup) :
    find k l = some v ↔ (k, v) ∈ l := by
  induction l with
  | nil => simp [find]
  | cons e rest ih =>
      obtain ⟨k', v'⟩ := e
      simp only [List.map_cons, List.nodup_cons] at h
      by_cases same : k' = k
      · subst same
        have absent : (k', v) ∉ rest := fun hm => h.1 (List.mem_map.mpr ⟨_, hm, rfl⟩)
        simp [find, absent, eq_comm]
      · simp [find, same, ih h.2, Ne.symm same]

theorem mem_of_find {k : κ} {v : ν} {l : List (κ × ν)} (found : find k l = some v) :
    (k, v) ∈ l := by
  induction l with
  | nil => cases found
  | cons e rest ih =>
      obtain ⟨k', v'⟩ := e
      by_cases same : k' = k
      · subst same
        have value : v' = v := by simpa [find] using found
        simp [value]
      · exact List.mem_cons_of_mem _ (ih (by simpa [find, same] using found))

theorem find_filter (p : κ → Bool) (k : κ) (l : List (κ × ν)) :
    find k (l.filter fun e => p e.1) = if p k then find k l else none := by
  induction l with
  | nil => simp [find]
  | cons e rest ih =>
      by_cases same : e.1 = k
      · subst same
        by_cases hp : p e.1 <;> simp [find, hp, ih]
      · by_cases hp : p e.1 <;> simp [find, hp, same, ih]

theorem filter_put (p : κ → Bool) {k : κ} (hk : p k = true) (v : ν) (l : List (κ × ν)) :
    (put k v l).filter (fun e => p e.1) = put k v (l.filter fun e => p e.1) := by
  induction l with
  | nil => simp [put, hk]
  | cons e rest ih =>
      by_cases same : e.1 = k
      · simp [put, same, hk]
      · by_cases hp : p e.1 <;> simp [put, same, hp, ih]

theorem filter_put_of_not (p : κ → Bool) {k : κ} (hk : p k = false) (v : ν)
    (l : List (κ × ν)) :
    (put k v l).filter (fun e => p e.1) = l.filter fun e => p e.1 := by
  induction l with
  | nil => simp [put, hk]
  | cons e rest ih =>
      by_cases same : e.1 = k
      · simp [put, same, hk]
      · by_cases hp : p e.1 <;> simp [put, same, hp, ih]

theorem find_map {μ : Type} (f : κ → ν → μ) (k : κ) (l : List (κ × ν)) :
    find k (l.map fun e => (e.1, f e.1 e.2)) = (find k l).map (f k) := by
  induction l with
  | nil => rfl
  | cons e rest ih =>
      by_cases same : e.1 = k
      · subst same
        simp [find]
      · simp [find, same, ih]

theorem map_put {μ : Type} (f : κ → ν → μ) (k : κ) (v : ν) (l : List (κ × ν)) :
    (put k v l).map (fun e => (e.1, f e.1 e.2)) =
      put k (f k v) (l.map fun e => (e.1, f e.1 e.2)) := by
  induction l with
  | nil => rfl
  | cons e rest ih =>
      by_cases same : e.1 = k
      · simp [put, same]
      · simp [put, same, ih]

theorem find_filter_value (p : ν → Bool) (k : κ) {l : List (κ × ν)}
    (h : (l.map Prod.fst).Nodup) :
    find k (l.filter fun e => p e.2) = (find k l).filter p := by
  induction l with
  | nil => rfl
  | cons e rest ih =>
      simp only [List.map_cons, List.nodup_cons] at h
      by_cases same : e.1 = k
      · subst same
        have absent : find e.1 rest = none := find_eq_none.mpr h.1
        by_cases hp : p e.2 <;> simp [find, hp, ih h.2, absent, Option.filter]
      · by_cases hp : p e.2 <;> simp [find, hp, same, ih h.2]

end Entries

/-! ## Dictionaries -/

namespace Dict

variable {κ ν : Type}

@[ext] theorem ext {d d' : Dict κ ν} (h : d.entries = d'.entries) : d = d' := by
  cases d; cases d'; cases h; rfl

def empty : Dict κ ν := ⟨[], by simp⟩

def keys (d : Dict κ ν) : List κ := d.entries.map Prod.fst

@[simp] theorem keys_empty : (empty : Dict κ ν).keys = [] := rfl

theorem nodup_keys (d : Dict κ ν) : d.keys.Nodup := d.nodup

/-- The entries whose key satisfies `p`, in their order. -/
def restrict (p : κ → Bool) (d : Dict κ ν) : Dict κ ν :=
  ⟨d.entries.filter fun e => p e.1, (List.filter_sublist.map Prod.fst).nodup d.nodup⟩

/-- The same keys with new values. -/
def mapValues {μ : Type} (f : κ → ν → μ) (d : Dict κ ν) : Dict κ μ :=
  ⟨d.entries.map fun e => (e.1, f e.1 e.2), by
    rw [List.map_map]
    exact d.nodup⟩

/-- The entries whose value satisfies `p`, in their order. -/
def filterValues (p : ν → Bool) (d : Dict κ ν) : Dict κ ν :=
  ⟨d.entries.filter fun e => p e.2, (List.filter_sublist.map Prod.fst).nodup d.nodup⟩

variable [DecidableEq κ]

def get? (d : Dict κ ν) (k : κ) : Option ν := Entries.find k d.entries

def getD (d : Dict κ ν) (k : κ) (dflt : ν) : ν := (d.get? k).getD dflt

def set (d : Dict κ ν) (k : κ) (v : ν) : Dict κ ν :=
  ⟨Entries.put k v d.entries, Entries.nodup_put k v d.nodup⟩

def pop (d : Dict κ ν) (k : κ) : Dict κ ν := d.restrict fun x => decide (x ≠ k)

/-- Store the pairs one after another; the last pair of a key wins. -/
def ofPairs (l : List (κ × ν)) : Dict κ ν := l.foldl (fun d e => d.set e.1 e.2) empty

@[simp] theorem get?_empty (k : κ) : (empty : Dict κ ν).get? k = none := rfl

@[simp] theorem get?_set_self (d : Dict κ ν) (k : κ) (v : ν) : (d.set k v).get? k = some v :=
  Entries.find_put_self k v d.entries

theorem entries_set_new {d : Dict κ ν} {k : κ} (new : k ∉ d.keys) (v : ν) :
    (d.set k v).entries = d.entries ++ [(k, v)] :=
  Entries.put_new v new

theorem get?_set_ne (d : Dict κ ν) {k k' : κ} (ne : k' ≠ k) (v : ν) :
    (d.set k v).get? k' = d.get? k' :=
  Entries.find_put_ne ne v d.entries

theorem get?_set (d : Dict κ ν) (k k' : κ) (v : ν) :
    (d.set k v).get? k' = if k' = k then some v else d.get? k' := by
  by_cases same : k' = k
  · subst same; simp
  · rw [get?_set_ne d same, if_neg same]

theorem getD_set (d : Dict κ ν) (k k' : κ) (v dflt : ν) :
    (d.set k v).getD k' dflt = if k' = k then v else d.getD k' dflt := by
  unfold getD
  rw [get?_set]
  split <;> rfl

theorem get?_eq_none {d : Dict κ ν} {k : κ} : d.get? k = none ↔ k ∉ d.keys :=
  Entries.find_eq_none

theorem get?_eq_some {d : Dict κ ν} {k : κ} {v : ν} :
    d.get? k = some v ↔ (k, v) ∈ d.entries :=
  Entries.find_eq_some d.nodup

theorem mem_keys {d : Dict κ ν} {k : κ} : k ∈ d.keys ↔ ∃ v, d.get? k = some v := by
  rw [← Option.ne_none_iff_exists', Ne, get?_eq_none, not_not]

@[simp] theorem get?_restrict (p : κ → Bool) (d : Dict κ ν) (k : κ) :
    (d.restrict p).get? k = if p k then d.get? k else none :=
  Entries.find_filter p k d.entries

@[simp] theorem get?_mapValues {μ : Type} (f : κ → ν → μ) (d : Dict κ ν) (k : κ) :
    (d.mapValues f).get? k = (d.get? k).map (f k) :=
  Entries.find_map f k d.entries

theorem set_of_get? {d : Dict κ ν} {k : κ} {v : ν} (found : d.get? k = some v) :
    d.set k v = d :=
  ext (Entries.put_of_find found)

theorem mapValues_set {μ : Type} (f : κ → ν → μ) (d : Dict κ ν) (k : κ) (v : ν) :
    (d.set k v).mapValues f = (d.mapValues f).set k (f k v) :=
  Dict.ext (Entries.map_put f k v d.entries)

theorem mapValues_pop {μ : Type} (f : κ → ν → μ) (d : Dict κ ν) (k : κ) :
    (d.pop k).mapValues f = (d.mapValues f).pop k := by
  refine Dict.ext ?_
  show (d.entries.filter _).map _ = (d.entries.map _).filter _
  rw [List.filter_map]
  rfl

omit [DecidableEq κ] in
@[simp] theorem keys_mapValues {μ : Type} (f : κ → ν → μ) (d : Dict κ ν) :
    (d.mapValues f).keys = d.keys :=
  List.map_map

@[simp] theorem get?_filterValues (p : ν → Bool) (d : Dict κ ν) (k : κ) :
    (d.filterValues p).get? k = (d.get? k).filter p :=
  Entries.find_filter_value p k d.nodup

@[simp] theorem get?_pop_self (d : Dict κ ν) (k : κ) : (d.pop k).get? k = none := by
  simp [pop]

theorem get?_pop_ne (d : Dict κ ν) {k k' : κ} (ne : k' ≠ k) : (d.pop k).get? k' = d.get? k' := by
  simp [pop, ne]

/-- Where all values have a property, a write keeps that exactly if the new one has it. -/
theorem forall_set_iff {P : ν → Prop} {d : Dict κ ν} (all : ∀ k v, d.get? k = some v → P v)
    (k : κ) (v : ν) : (∀ k' v', (d.set k v).get? k' = some v' → P v') ↔ P v := by
  constructor
  · intro after
    exact after k v (get?_set_self d k v)
  · intro new k' v' found
    by_cases same : k' = k
    · subst same
      rw [get?_set_self] at found
      cases found
      exact new
    · exact all k' v' ((get?_set_ne d same v).symm.trans found)

theorem forall_pop {P : ν → Prop} {d : Dict κ ν} (all : ∀ k v, d.get? k = some v → P v)
    (k : κ) : ∀ k' v', (d.pop k).get? k' = some v' → P v' := by
  intro k' v' found
  by_cases same : k' = k
  · subst same
    rw [get?_pop_self] at found
    cases found
  · exact all k' v' ((get?_pop_ne d same).symm.trans found)

@[simp] theorem mem_keys_set (d : Dict κ ν) (k k' : κ) (v : ν) :
    k' ∈ (d.set k v).keys ↔ k' = k ∨ k' ∈ d.keys :=
  Entries.mem_keys_put k v d.entries k'

theorem keys_set (d : Dict κ ν) (k : κ) (v : ν) :
    (d.set k v).keys = if k ∈ d.keys then d.keys else d.keys ++ [k] := by
  split
  case isTrue mem => exact Entries.keys_put_of_mem v mem
  case isFalse new =>
    show (Entries.put k v d.entries).map Prod.fst = _
    rw [Entries.put_new v new, List.map_append]
    rfl

@[simp] theorem keys_set_ne_nil (d : Dict κ ν) (k : κ) (v : ν) : (d.set k v).keys ≠ [] :=
  List.ne_nil_of_mem ((mem_keys_set d k k v).mpr (.inl rfl))

@[simp] theorem mem_keys_pop (d : Dict κ ν) (k k' : κ) :
    k' ∈ (d.pop k).keys ↔ k' ≠ k ∧ k' ∈ d.keys := by
  rw [mem_keys, mem_keys]
  by_cases same : k' = k
  · subst same; simp
  · simp [get?_pop_ne d same, same]

omit [DecidableEq κ] in
/-- Fewer keys, a smaller dictionary. -/
theorem length_keys_le {μ : Type} {d : Dict κ ν} {e : Dict κ μ}
    (sub : ∀ k, k ∈ d.keys → k ∈ e.keys) : d.keys.length ≤ e.keys.length :=
  List.Nodup.length_le_of_subset d.nodup_keys fun k mem => sub k mem

theorem length_keys_set_le (d : Dict κ ν) (k : κ) (v : ν) :
    (d.set k v).keys.length ≤ d.keys.length + 1 := by
  have sub : (d.set k v).keys ⊆ k :: d.keys := by
    intro k' mem
    rcases (mem_keys_set d k k' v).mp mem with rfl | mem
    · exact List.mem_cons_self
    · exact List.mem_cons_of_mem _ mem
  exact List.Nodup.length_le_of_subset (d.set k v).nodup_keys sub

theorem restrict_set (p : κ → Bool) (d : Dict κ ν) {k : κ} (hk : p k = true) (v : ν) :
    (d.set k v).restrict p = (d.restrict p).set k v :=
  Dict.ext (Entries.filter_put p hk v d.entries)

/-- A write at a key outside `p` does not show in the restriction. -/
theorem restrict_set_of_not (p : κ → Bool) (d : Dict κ ν) {k : κ} (hk : p k = false) (v : ν) :
    (d.set k v).restrict p = d.restrict p :=
  Dict.ext (Entries.filter_put_of_not p hk v d.entries)

/-! ## Dictionaries built from pairs -/

theorem ofPairs_append_single (l : List (κ × ν)) (e : κ × ν) :
    ofPairs (l ++ [e]) = (ofPairs l).set e.1 e.2 := by
  simp [ofPairs, List.foldl_append]

/-- The last pair of a key decides what the dictionary answers. -/
theorem get?_ofPairs (l : List (κ × ν)) (k : κ) :
    (ofPairs l).get? k = Entries.find k l.reverse := by
  induction l using List.reverseRecOn with
  | nil => rfl
  | append_singleton l e ih =>
      rw [ofPairs_append_single, get?_set, ih, List.reverse_append]
      by_cases same : k = e.1
      · subst same; simp [Entries.find]
      · simp [Entries.find, same, Ne.symm same]

/-- A value the dictionary answers is one of the pairs it was built from. -/
theorem mem_of_get?_ofPairs {l : List (κ × ν)} {k : κ} {v : ν}
    (h : (ofPairs l).get? k = some v) : (k, v) ∈ l := by
  rw [get?_ofPairs] at h
  exact List.mem_reverse.mp (Entries.mem_of_find h)

/-- A dictionary built from pairs has the keys of the pairs. -/
theorem get?_ofPairs_eq_none {l : List (κ × ν)} {k : κ} :
    (ofPairs l).get? k = none ↔ k ∉ l.map Prod.fst := by
  rw [get?_ofPairs, Entries.find_eq_none, List.map_reverse, List.mem_reverse]

/-- Dropping the pairs of some keys drops these keys. -/
theorem get?_ofPairs_filter (p : κ → Bool) (l : List (κ × ν)) (k : κ) :
    (ofPairs (l.filter fun e => p e.1)).get? k = if p k then (ofPairs l).get? k else none := by
  rw [get?_ofPairs, get?_ofPairs, ← List.filter_reverse, Entries.find_filter]

/-- Mapping the values of the pairs maps what the dictionary answers. -/
theorem get?_ofPairs_map {μ : Type} (g : ν → μ) (l : List (κ × ν)) (k : κ) :
    (ofPairs (l.map fun e => (e.1, g e.2))).get? k = ((ofPairs l).get? k).map g := by
  rw [get?_ofPairs, get?_ofPairs, ← List.map_reverse]
  exact Entries.find_map (fun _ => g) k l.reverse

end Dict

end LocoTwin.Lib
