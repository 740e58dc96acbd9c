/-
# Lib.PathSums -- the lengths of a path up to each of its points

`pathSums next total points` lists, for every point, what `next` makes of `total` and the
points before it: for `next total p q` the sum of `total` and the distance, exact or rounded.
It `Grows` where no step takes anything away from a value that has the property `P`, which the
sums keep.

* `pathSums_mono`: the sums do not fall along the path;
* `absorbed`: the steps between points with the same sum leave the sum as it is;
* `segment_unique`: a value above one sum and not above the next one is so at one place only.
-/
import Mathlib.Data.List.Basic
import Mathlib.Order.Lattice

namespace LocoTwin.Lib

set_option autoImplicit false

section

variable {α R : Type} {next : R → α → α → R}

variable (next) in
/-- The sums from `total` on; a path without points has the sum `total`. -/
def pathSums (total : R) : List α → List R
  | p :: q :: points => total :: pathSums (next total p q) (q :: points)
  | _ => [total]

theorem length_pathSums (total : R) (p : α) (points : List α) :
    (pathSums next total (p :: points)).length = (p :: points).length := by
  induction points generalizing total p with
  | nil => rfl
  | cons q points ih => simp [pathSums, ih]

theorem head_pathSums (total : R) (points : List α) :
    (pathSums next total points)[0]? = some total := by
  unfold pathSums
  split <;> rfl

/-- The last sum is the one of the last point. -/
theorem getLast_pathSums (total default : R) (p : α) (points : List α) :
    (pathSums next total (p :: points))[points.length]? =
      some ((pathSums next total (p :: points)).getLastD default) := by
  have length : (pathSums next total (p :: points)).length = (p :: points).length :=
    length_pathSums total p points
  have nonempty : pathSums next total (p :: points) ≠ [] := by
    intro none'
    rw [none'] at length
    cases length
  rw [List.getLastD_eq_getLast?, List.getLast?_eq_some_getLast nonempty, Option.getD_some,
    ← List.getLast?_eq_some_getLast nonempty, List.getLast?_eq_getElem?, length,
    List.length_cons, Nat.add_sub_cancel]

/-- A sum is what `next` makes of the one before. -/
theorem next_pathSums {total a b : R} {points : List α} {i : ℕ} {p q : α}
    (here : points[i]? = some p) (there : points[i + 1]? = some q)
    (at_i : (pathSums next total points)[i]? = some a)
    (at_i' : (pathSums next total points)[i + 1]? = some b) : b = next a p q := by
  induction points generalizing total i with
  | nil => cases here
  | cons x points ih =>
      cases points with
      | nil => simp at there
      | cons y points =>
          cases i with
          | zero =>
              obtain rfl : x = p := Option.some.inj here
              obtain rfl : y = q := Option.some.inj there
              rw [head_pathSums] at at_i
              obtain rfl := Option.some.inj at_i
              have second : (pathSums next (next total x y) (y :: points))[0]? = some b := by
                simpa [pathSums] using at_i'
              rw [head_pathSums] at second
              exact (Option.some.inj second).symm
          | succ i =>
              exact ih here there (by simpa [pathSums] using at_i)
                (by simpa [pathSums] using at_i')

variable [LinearOrder R] {P : R → Prop}

variable (next P) in
structure Grows : Prop where
  keeps : ∀ a p q, P a → P (next a p q)
  le : ∀ a p q, P a → a ≤ next a p q

/-- Every sum is at least the first. -/
theorem le_of_pathSums (grows : Grows next P) {total a : R} (start : P total) {points : List α}
    {i : ℕ} (here : (pathSums next total points)[i]? = some a) : total ≤ a ∧ P a := by
  induction points generalizing total i with
  | nil =>
      cases i with
      | zero => simp [pathSums] at here; exact ⟨here.le, here ▸ start⟩
      | succ i => simp [pathSums] at here
  | cons p points ih =>
      cases points with
      | nil =>
          cases i with
          | zero => simp [pathSums] at here; exact ⟨here.le, here ▸ start⟩
          | succ i => simp [pathSums] at here
      | cons q points =>
          cases i with
          | zero => simp [pathSums] at here; exact ⟨here.le, here ▸ start⟩
          | succ i =>
              have later := ih (grows.keeps total p q start) (by simpa [pathSums] using here)
              exact ⟨(grows.le total p q start).trans later.1, later.2⟩

theorem pathSums_mono (grows : Grows next P) {total a b : R} (start : P total)
    {points : List α} {i j : ℕ} (le : i ≤ j) (at_i : (pathSums next total points)[i]? = some a)
    (at_j : (pathSums next total points)[j]? = some b) : a ≤ b := by
  induction points generalizing total i j with
  | nil =>
      cases i with
      | zero =>
          rw [head_pathSums] at at_i
          cases at_i
          exact (le_of_pathSums grows start at_j).1
      | succ i => simp [pathSums] at at_i
  | cons p points ih =>
      cases i with
      | zero =>
          rw [head_pathSums] at at_i
          cases at_i
          exact (le_of_pathSums grows start at_j).1
      | succ i =>
          obtain ⟨j, rfl⟩ := Nat.exists_eq_add_of_le' (Nat.le_trans (Nat.succ_pos i) le)
          cases points with
          | nil => simp [pathSums] at at_i
          | cons q points =>
              exact ih (grows.keeps total p q start) (Nat.le_of_succ_le_succ le)
                (by simpa [pathSums] using at_i) (by simpa [pathSums] using at_j)

/-- The steps between points with one sum are lost in it. -/
theorem absorbed (grows : Grows next P) {total a : R} (start : P total) {points : List α}
    {i j k : ℕ} (at_i : (pathSums next total points)[i]? = some a)
    (at_j : (pathSums next total points)[j]? = some a) (le : i ≤ k) (lt : k < j) {p q : α}
    (here : points[k]? = some p) (there : points[k + 1]? = some q) : next a p q = a := by
  obtain ⟨x, rest, rfl⟩ : ∃ x rest, points = x :: rest := by
    cases points with
    | nil => cases here
    | cons x rest => exact ⟨x, rest, rfl⟩
  have inside : k + 1 < (pathSums next total (x :: rest)).length := by
    rw [length_pathSums]
    exact (List.getElem?_eq_some_iff.mp there).1
  have at_k := List.getElem?_eq_getElem (Nat.lt_of_succ_lt inside)
  have at_k' := List.getElem?_eq_getElem inside
  have first := le_antisymm (pathSums_mono grows start (Nat.le_of_lt lt) at_k at_j)
    (pathSums_mono grows start le at_i at_k)
  have second := le_antisymm (pathSums_mono grows start lt at_k' at_j)
    (pathSums_mono grows start (Nat.le_succ_of_le le) at_i at_k')
  rw [first] at at_k
  rw [second] at at_k'
  exact (next_pathSums here there at_k at_k').symm

/-- **One segment only** reaches a value. -/
theorem segment_unique (grows : Grows next P) {total x : R} (start : P total)
    {points : List α} {i j : ℕ} {a b c d : R}
    (at_i : (pathSums next total points)[i]? = some a)
    (at_i' : (pathSums next total points)[i + 1]? = some b)
    (at_j : (pathSums next total points)[j]? = some c)
    (at_j' : (pathSums next total points)[j + 1]? = some d)
    (in_i : a < x ∧ x ≤ b) (in_j : c < x ∧ x ≤ d) : i = j := by
  rcases Nat.lt_trichotomy i j with before | same | after
  · have above : b ≤ c := pathSums_mono grows start before at_i' at_j
    exact absurd (in_i.2.trans above) (not_le.mpr in_j.1)
  · exact same
  · have above : d ≤ a := pathSums_mono grows start after at_j' at_i
    exact absurd (in_j.2.trans above) (not_le.mpr in_i.1)

end

end LocoTwin.Lib
