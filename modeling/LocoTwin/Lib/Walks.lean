/-
# Lib.Walks -- points one after another

`pairwise l` lists the neighbours of `l`, `strides dist l` their distances, and
`pathLength dist l` adds these up.

* `strides_join`: a walk that goes on where another ends has the steps of both;
* `strides_reverse`: turning a walk around reverses its steps, for a symmetric distance;
* `getElem?_slice`: a slice, its last index included, has the points of the walk between;
* `related_of_stretches`: where some neighbours are linked and the ends of every stretch
  without a link are related all the same, any two points of the walk are.
-/
import Mathlib.Algebra.BigOperators.Group.List.Basic
import Mathlib.Data.List.Basic
import Mathlib.Data.Nat.Init

namespace LocoTwin.Lib

set_option autoImplicit false

section

variable {α : Type}

/-- `itertools.pairwise` -/
def pairwise (l : List α) : List (α × α) := l.zip l.tail

@[simp] theorem pairwise_cons_cons (a b : α) (l : List α) :
    pairwise (a :: b :: l) = (a, b) :: pairwise (b :: l) := rfl

theorem getElem?_pairwise {l : List α} {i : ℕ} {a b : α} :
    (pairwise l)[i]? = some (a, b) ↔ l[i]? = some a ∧ l[i + 1]? = some b := by
  rw [pairwise, List.getElem?_zip_eq_some, List.getElem?_tail]

section

variable {β : Type}

/-- The distances of the neighbours. -/
def strides (dist : α → α → β) (l : List α) : List β := (pairwise l).map fun e => dist e.1 e.2

variable {dist : α → α → β}

variable (dist) in
@[simp] theorem strides_cons_cons (a b : α) (l : List α) :
    strides dist (a :: b :: l) = dist a b :: strides dist (b :: l) := rfl

variable (dist) in
@[simp] theorem strides_singleton (a : α) : strides dist [a] = [] := rfl

/-- A walk has the steps of its parts up to a point and from it on. -/
theorem strides_append (l : List α) (a : α) (m : List α) :
    strides dist (l ++ a :: m) = strides dist (l ++ [a]) ++ strides dist (a :: m) := by
  induction l with
  | nil => simp
  | cons b l ih =>
      cases l with
      | nil => simp
      | cons c l =>
          simp only [List.cons_append, strides_cons_cons] at ih ⊢
          rw [ih]

theorem strides_join {l m : List α} {a : α} (ends : l.getLast? = some a)
    (starts : m.head? = some a) :
    strides dist (l ++ m.tail) = strides dist l ++ strides dist m := by
  obtain ⟨front, rfl⟩ := List.getLast?_eq_some_iff.mp ends
  obtain ⟨rest, rfl⟩ := List.head?_eq_some_iff.mp starts
  rw [List.tail_cons, List.append_assoc, List.singleton_append, strides_append]

theorem strides_reverse (symm : ∀ p q, dist p q = dist q p) (l : List α) :
    strides dist l.reverse = (strides dist l).reverse := by
  induction l with
  | nil => rfl
  | cons a l ih =>
      cases l with
      | nil => rfl
      | cons b l =>
          rw [List.reverse_cons] at ih
          rw [List.reverse_cons, List.reverse_cons, List.append_assoc, List.singleton_append,
            strides_append, ih, strides_cons_cons, strides_cons_cons, strides_singleton,
            List.reverse_cons, symm b a]

end

variable {R : Type} [AddCommMonoid R] {dist : α → α → R}

variable (dist) in
def pathLength (l : List α) : R := (strides dist l).sum

variable (dist) in
@[simp] theorem pathLength_cons_cons (a b : α) (l : List α) :
    pathLength dist (a :: b :: l) = dist a b + pathLength dist (b :: l) := rfl

variable (dist) in
@[simp] theorem pathLength_singleton (a : α) : pathLength dist [a] = 0 := rfl

/-- A path is as long as its parts up to a point and from it on. -/
theorem pathLength_append (l : List α) (a : α) (m : List α) :
    pathLength dist (l ++ a :: m) = pathLength dist (l ++ [a]) + pathLength dist (a :: m) := by
  rw [pathLength, strides_append, List.sum_append]
  rfl

end

/-! ## Parts of a walk -/

section

variable {α : Type}

/-- `xs[i : j + 1]` -/
def slice (xs : List α) (i j : ℕ) : List α := (xs.take (j + 1)).drop i

theorem getElem?_slice {xs : List α} {i j k : ℕ} (within : i + k ≤ j) :
    (slice xs i j)[k]? = xs[i + k]? := by
  rw [slice, List.getElem?_drop, List.getElem?_take, if_pos (by omega)]

theorem head?_slice {xs : List α} {i j : ℕ} (le : i ≤ j) :
    (slice xs i j).head? = xs[i]? := by
  rw [List.head?_eq_getElem?, getElem?_slice (by omega), Nat.add_zero]

theorem length_slice {xs : List α} {i j : ℕ} (lt : j < xs.length) :
    (slice xs i j).length = j + 1 - i := by
  rw [slice, List.length_drop, List.length_take, Nat.min_eq_left lt]

theorem getLast?_slice {xs : List α} {i j : ℕ} (le : i ≤ j) (lt : j < xs.length) :
    (slice xs i j).getLast? = xs[j]? := by
  rw [List.getLast?_eq_getElem?, length_slice lt, getElem?_slice (by omega)]
  congr 1
  omega

/-- A walk of two points or more goes on after its first one. -/
theorem getLast?_tail_of_two {l : List α} (two : 2 ≤ l.length) :
    l.tail.getLast? = l.getLast? := by
  cases l with
  | nil => rfl
  | cons a l =>
      cases l with
      | nil => simp at two
      | cons b l => rw [List.tail_cons, List.getLast?_cons_cons]

end

/-! ## Along a walk -/

section

variable {α : Type} {R : α → α → Prop} {on : α → Prop} {l : List α} {kept : ℕ → Prop}

/-- A point is related to the end of a stretch without links, however far the stretch
reaches back, if it is to every point before. -/
theorem related_of_stretch (trans : ∀ a b c, R a b → R b c → R a c)
    (step : ∀ i u v, kept i → l[i]? = some u → l[i + 1]? = some v → R u v ∧ on u ∧ on v)
    (stretch : ∀ a b u v, a < b → (∀ i, a ≤ i → i < b → ¬kept i) → l[a]? = some u →
      l[b]? = some v → on u → on v → R u v)
    {a c b : ℕ} {u v : α} (here : l[a]? = some u) (stop : l[b]? = some v) (on_u : on u)
    (on_v : on v)
    (before : ∀ k x, a ≤ k → k < b → l[k]? = some x → on x → R u x)
    (le : a ≤ c) (lt : c < b) (dropped : ∀ i, c ≤ i → i < b → ¬kept i) : R u v := by
  induction c, le using Nat.le_induction with
  | base => exact stretch a b u v lt dropped here stop on_u on_v
  | succ c le ih =>
      by_cases link : kept c
      · -- the stretch starts where a kept link ends
        have inside : c + 1 < l.length := Nat.lt_trans lt (List.getElem?_eq_some_iff.mp stop).1
        have next : l[c + 1]? = some l[c + 1] := List.getElem?_eq_getElem inside
        have last : l[c]? = some l[c] := List.getElem?_eq_getElem (by omega)
        obtain ⟨-, -, on_next⟩ := step c _ _ link last next
        exact trans _ _ _ (before _ _ (by omega) lt next on_next)
          (stretch _ _ _ _ lt dropped next stop on_next on_v)
      · refine ih (by omega) fun i above below => ?_
        rcases Nat.eq_or_lt_of_le above with same | later
        · exact same ▸ link
        · exact dropped i later below

/-- **What relates the ends of every kept link and of every stretch without one relates any
two elements.** -/
theorem related_of_stretches (refl : ∀ a, R a a) (trans : ∀ a b c, R a b → R b c → R a c)
    (step : ∀ i u v, kept i → l[i]? = some u → l[i + 1]? = some v → R u v ∧ on u ∧ on v)
    (stretch : ∀ a b u v, a < b → (∀ i, a ≤ i → i < b → ¬kept i) → l[a]? = some u →
      l[b]? = some v → on u → on v → R u v)
    {a b : ℕ} {u v : α} (le : a ≤ b) (here : l[a]? = some u) (stop : l[b]? = some v)
    (on_u : on u) (on_v : on v) : R u v := by
  induction b using Nat.strong_induction_on generalizing v with
  | _ b ih =>
      rcases Nat.eq_or_lt_of_le le with rfl | lt
      · rw [here] at stop
        cases stop
        exact refl u
      · obtain ⟨c, rfl⟩ : ∃ c, b = c + 1 := ⟨b - 1, by omega⟩
        by_cases link : kept c
        · have inside : c + 1 < l.length := (List.getElem?_eq_some_iff.mp stop).1
          have last : l[c]? = some l[c] := List.getElem?_eq_getElem (by omega)
          obtain ⟨related, on_last, -⟩ := step c _ _ link last stop
          exact trans _ _ _ (ih c (by omega) (by omega) last on_last) related
        · have before : ∀ k x, a ≤ k → k < c + 1 → l[k]? = some x → on x → R u x :=
            fun k x above below at_k on_x => ih k below above at_k on_x
          refine related_of_stretch trans step stretch here stop on_u on_v before
            (Nat.le_of_lt_succ lt) (Nat.lt_succ_self c) fun i above below => ?_
          obtain rfl : i = c := by omega
          exact link

end

end LocoTwin.Lib
