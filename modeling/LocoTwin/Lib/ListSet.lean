/-
# Lib.ListSet -- lists with one entry changed

What `xs.set i y` makes of counts and sums over the entries, given the entry `x` that
was there: a function with the same value at both does not see the change
(`map_set_same`, and from it `any_set_same` and `countP_set_same`), a sum changes by
the difference (`sum_map_set`), a count falls when `y` no longer counts
(`countP_set_lt`).
-/
import Mathlib.Data.List.Basic
import Mathlib.Algebra.BigOperators.Group.List.Basic
import Mathlib.Algebra.Ring.Nat

namespace LocoTwin.Lib

set_option autoImplicit false

variable {α β : Type} {xs : List α} {i : Nat} {x y : α}

theorem map_set_same {f : α → β} (found : xs[i]? = some x) (same : f y = f x) :
    (xs.set i y).map f = xs.map f := by
  obtain ⟨lt, rfl⟩ := List.getElem?_eq_some_iff.mp found
  rw [List.map_set, same, ← List.getElem_map f (h := by simpa using lt), List.set_getElem_self]

theorem any_set_same {p : α → Bool} (found : xs[i]? = some x) (same : p y = p x) :
    (xs.set i y).any p = xs.any p := by
  have any_map (zs : List α) : (zs.map p).any id = zs.any p := by rw [List.any_map]; rfl
  rw [← any_map, map_set_same found same, any_map]

theorem countP_set_same {p : α → Bool} (found : xs[i]? = some x) (same : p y = p x) :
    (xs.set i y).countP p = xs.countP p := by
  have countP_map (zs : List α) : (zs.map p).countP id = zs.countP p := by
    rw [List.countP_map]
    rfl
  rw [← countP_map, map_set_same found same, countP_map]

theorem sum_map_set (f : α → Nat) (found : xs[i]? = some x) (y : α) :
    ((xs.set i y).map f).sum + f x = (xs.map f).sum + f y := by
  induction xs generalizing i with
  | nil => simp at found
  | cons first rest ih =>
      cases i with
      | zero =>
          obtain rfl : first = x := by simpa using found
          simp only [List.set_cons_zero, List.map_cons, List.sum_cons]
          omega
      | succ i =>
          have later := ih (by simpa using found)
          simp only [List.set_cons_succ, List.map_cons, List.sum_cons]
          omega

theorem countP_set_lt {p : α → Bool} (found : xs[i]? = some x) (before : p x = true)
    (after : p y = false) : (xs.set i y).countP p < xs.countP p := by
  obtain ⟨lt, rfl⟩ := List.getElem?_eq_some_iff.mp found
  have pos : 0 < xs.countP p := List.countP_pos_iff.mpr ⟨_, List.getElem_mem lt, before⟩
  rw [List.countP_set lt, if_pos before, if_neg (by simp [after])]
  omega

end LocoTwin.Lib
