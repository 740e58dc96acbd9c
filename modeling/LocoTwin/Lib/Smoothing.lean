/-
# Lib.Smoothing -- exponential smoothing, step by step and at once

`weighted k zs` is the value that smoothing with gain `k` leaves after the values `zs`: the
first of them has the weight `(1 - k) ^ (n - 1)`, the `i`-th one after it the weight
`k * (1 - k) ^ (n - i)`.

* `weighted_concat`: one more value is one step of the recurrence;
* `weighted_mem_Icc`: a value between bounds of what went in, for a gain in `[0, 1]`;
* `weighted_replicate`: while the input is constant, the distance to it shrinks by the
  factor `1 - k`;
* `smooth_le`, `le_smooth`: how close to a bound the smoothed value is after a `streak` of
  inputs within it, whatever came before.
-/
import Mathlib.Algebra.BigOperators.Intervals
import Mathlib.Algebra.BigOperators.Ring.Finset
import Mathlib.Algebra.Order.Ring.Defs
import Mathlib.Data.List.GetD
import Mathlib.Data.List.Induction
import Mathlib.Data.List.DropRight
import Mathlib.Order.Interval.Finset.Nat
import Mathlib.Tactic.Linarith
import Mathlib.Tactic.Ring

namespace LocoTwin.Lib

set_option autoImplicit false

variable {R : Type} [CommRing R]

/-- The weights of the values `zs`, which are counted from 1. -/
def weighted (k : R) (zs : List R) : R :=
  (1 - k) ^ (zs.length - 1) * zs.getD 0 0 +
    ∑ i ∈ Finset.Icc 2 zs.length, k * (1 - k) ^ (zs.length - i) * zs.getD (i - 1) 0

theorem weighted_singleton (k z : R) : weighted k [z] = z := by
  simp [weighted]

/-- The recurrence. -/
theorem weighted_concat (k z : R) {zs : List R} (some' : zs ≠ []) :
    weighted k (zs ++ [z]) = k * z + (1 - k) * weighted k zs := by
  obtain ⟨n, length⟩ := Nat.exists_eq_succ_of_ne_zero (List.length_pos_iff.mpr some').ne'
  have first : (zs ++ [z]).getD 0 0 = zs.getD 0 0 := by
    rw [List.getD_append _ _ _ _ (by omega)]
  have last : (zs ++ [z]).getD (n + 1) 0 = z := by
    rw [List.getD_append_right _ _ _ _ (by omega), length]
    simp
  have earlier : ∀ i ∈ Finset.Icc 2 (n + 1),
      k * (1 - k) ^ (n + 2 - i) * (zs ++ [z]).getD (i - 1) 0 =
        (1 - k) * (k * (1 - k) ^ (n + 1 - i) * zs.getD (i - 1) 0) := by
    intro i mem
    obtain ⟨-, le⟩ := Finset.mem_Icc.mp mem
    rw [List.getD_append _ _ _ _ (by omega), show n + 2 - i = (n + 1 - i) + 1 by omega, pow_succ]
    ring
  unfold weighted
  rw [List.length_append, List.length_singleton, length, Finset.sum_Icc_succ_top (by omega),
    Finset.sum_congr rfl earlier, ← Finset.mul_sum, first]
  simp only [Nat.succ_eq_add_one, Nat.add_sub_cancel, last, Nat.sub_self, pow_zero, pow_succ]
  ring

/-- While the input is constant, the distance to it shrinks by a constant factor. -/
theorem weighted_replicate (k c : R) {zs : List R} (some' : zs ≠ []) (m : ℕ) :
    weighted k (zs ++ List.replicate m c) - c = (1 - k) ^ m * (weighted k zs - c) := by
  induction m with
  | zero => simp
  | succ m ih =>
      have nonempty : zs ++ List.replicate m c ≠ [] := by simp [some']
      calc weighted k (zs ++ List.replicate (m + 1) c) - c
          = k * c + (1 - k) * weighted k (zs ++ List.replicate m c) - c := by
            rw [List.replicate_succ', ← List.append_assoc, weighted_concat k c nonempty]
        _ = (1 - k) * (weighted k (zs ++ List.replicate m c) - c) := by ring
        _ = (1 - k) ^ (m + 1) * (weighted k zs - c) := by rw [ih, pow_succ]; ring

/-- Between the bounds of the values. -/
theorem weighted_mem_Icc [LinearOrder R] [IsStrictOrderedRing R] {k lo hi : R} (nonneg : 0 ≤ k)
    (le_one : k ≤ 1) {zs : List R} (some' : zs ≠ []) (bounds : ∀ z ∈ zs, lo ≤ z ∧ z ≤ hi) :
    lo ≤ weighted k zs ∧ weighted k zs ≤ hi := by
  induction zs using List.reverseRecOn with
  | nil => exact absurd rfl some'
  | append_singleton zs z ih =>
      obtain ⟨low, high⟩ := bounds z (by simp)
      cases zs with
      | nil =>
          rw [List.nil_append, weighted_singleton]
          exact ⟨low, high⟩
      | cons first zs =>
          obtain ⟨low', high'⟩ := ih (List.cons_ne_nil _ _) fun z mem =>
            bounds z (List.mem_append_left _ mem)
          rw [weighted_concat k z (List.cons_ne_nil _ _)]
          -- a mean of two values within the bounds
          have rest : 0 ≤ 1 - k := sub_nonneg.mpr le_one
          constructor
          · calc lo = k * lo + (1 - k) * lo := by ring
              _ ≤ _ := add_le_add (mul_le_mul_of_nonneg_left low nonneg)
                (mul_le_mul_of_nonneg_left low' rest)
          · calc _ ≤ k * hi + (1 - k) * hi := add_le_add (mul_le_mul_of_nonneg_left high nonneg)
                  (mul_le_mul_of_nonneg_left high' rest)
              _ = hi := by ring

/-! ## After a streak -/

section

variable {α : Type} {own good : α → Bool} {log : List α} {entry : α}

/-- How many of the last own entries of a log, in a row, are good. -/
def streak (own good : α → Bool) (log : List α) : ℕ := ((log.filter own).rtakeWhile good).length

theorem streak_own (h : own entry = true) :
    streak own good (log ++ [entry]) = if good entry then streak own good log + 1 else 0 := by
  unfold streak
  rw [List.filter_append, List.filter_singleton, h]
  cases ok : good entry with
  | true => simp [ok]
  | false => simp [ok]

theorem streak_other (h : own entry = false) :
    streak own good (log ++ [entry]) = streak own good log := by
  unfold streak
  simp [List.filter_append, h]

end

section

variable [LinearOrder R] [IsStrictOrderedRing R] {k b d z x : R} {n : ℕ}

theorem pow_gain_le (nonneg : 0 ≤ k) (le_one : k ≤ 1) (width : 0 ≤ d) (m : ℕ) :
    (1 - k) ^ m * d ≤ d := by
  have small : (1 - k) ^ m ≤ 1 :=
    pow_le_one₀ (sub_nonneg.mpr le_one) (sub_le_self 1 nonneg)
  exact mul_le_of_le_one_left width small

/-- One more input, which is never more than `d` above the bound, and not above it at all
while the streak lasts. -/
theorem smooth_le (nonneg : 0 ≤ k) (le_one : k ≤ 1) (width : 0 ≤ d) (ok : Bool)
    (within : ok = true → z ≤ b) (near : z ≤ b + d) (before : x ≤ b + (1 - k) ^ n * d) :
    k * z + (1 - k) * x ≤ b + (1 - k) ^ (if ok then n + 1 else 0) * d := by
  have rest : 0 ≤ 1 - k := sub_nonneg.mpr le_one
  cases ok with
  | true =>
      calc k * z + (1 - k) * x ≤ k * b + (1 - k) * (b + (1 - k) ^ n * d) :=
            add_le_add (mul_le_mul_of_nonneg_left (within rfl) nonneg)
              (mul_le_mul_of_nonneg_left before rest)
        _ = b + (1 - k) ^ (n + 1) * d := by ring
  | false =>
      have far : x ≤ b + d := before.trans (by linarith [pow_gain_le nonneg le_one width n])
      calc k * z + (1 - k) * x ≤ k * (b + d) + (1 - k) * (b + d) :=
            add_le_add (mul_le_mul_of_nonneg_left near nonneg)
              (mul_le_mul_of_nonneg_left far rest)
        _ = b + (1 - k) ^ 0 * d := by ring

/-- The same from below. -/
theorem le_smooth (nonneg : 0 ≤ k) (le_one : k ≤ 1) (width : 0 ≤ d) (ok : Bool)
    (within : ok = true → b ≤ z) (near : b - d ≤ z) (before : b - (1 - k) ^ n * d ≤ x) :
    b - (1 - k) ^ (if ok then n + 1 else 0) * d ≤ k * z + (1 - k) * x := by
  have mirrored := smooth_le (z := -z) (x := -x) (b := -b) (n := n) nonneg le_one width ok
    (fun h => neg_le_neg (within h)) (by linarith) (by linarith)
  linarith

end

end LocoTwin.Lib
