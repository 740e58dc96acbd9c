/-
# Lib.Buckets -- cutting a run of indices into parts

A cut function gives the index where each part starts; part `k` is `c k .. c (k + 1)`.
`Cuts c m n` says that `m` parts from index `1` on, and the one after them, are not
empty, and that the `m` parts end below `n`.

`edge F b k` cuts at the multiples of a width `b`, each truncated, in the arithmetic `F`:

* `exact_cuts`, `edge_exact_top`: `m` parts of width `p / m` cover exactly the indices
  `1 .. p`;
* `binary64_cuts`, `le_edge_binary64`: in double precision they are parts too, but the last
  may end one index early.
-/
import LocoTwin.Lib.Binary64
import Mathlib.Algebra.Order.Floor.Semiring

namespace LocoTwin.Lib

set_option autoImplicit false

structure Cuts (c : ℕ → ℕ) (m n : ℕ) : Prop where
  first : c 0 = 1
  step : ∀ k ≤ m, c k < c (k + 1)
  top : c m < n

namespace Cuts

variable {c : ℕ → ℕ} {m n : ℕ}

theorem mono (cuts : Cuts c m n) {i j : ℕ} (le : i ≤ j) (bound : j ≤ m + 1) : c i ≤ c j := by
  induction j, le using Nat.le_induction with
  | base => exact le_rfl
  | succ j _ ih => exact (ih (by omega)).trans (cuts.step j (by omega)).le

theorem one_le (cuts : Cuts c m n) {k : ℕ} (le : k ≤ m + 1) : 1 ≤ c k := by
  rw [← cuts.first]
  exact cuts.mono k.zero_le le

theorem lt_top (cuts : Cuts c m n) {k : ℕ} (le : k ≤ m) : c k < n :=
  (cuts.mono le (by omega)).trans_lt cuts.top

/-- An index lies in one part only. -/
theorem part_unique (cuts : Cuts c m n) {k l j : ℕ} (le : k ≤ m) (le' : l ≤ m) (hk : c k ≤ j)
    (hk' : j < c (k + 1)) (hl : c l ≤ j) (hl' : j < c (l + 1)) : k = l := by
  rcases Nat.lt_trichotomy k l with lt | same | lt
  · have := cuts.mono (show k + 1 ≤ l from lt) (by omega)
    omega
  · exact same
  · have := cuts.mono (show l + 1 ≤ k from lt) (by omega)
    omega

theorem exists_part (first : c 0 = 1) {l j : ℕ} (low : 1 ≤ j) (high : j < c l) :
    ∃ k < l, c k ≤ j ∧ j < c (k + 1) := by
  induction l with
  | zero => omega
  | succ l ih =>
      by_cases below : j < c l
      · obtain ⟨k, lt, within⟩ := ih below
        exact ⟨k, by omega, within⟩
      · exact ⟨l, by omega, by omega, high⟩

end Cuts

/-! ## Equal widths -/

/-- The first index of part `k`. -/
def edge (F : FloatArith) (b : ℚ) (k : ℕ) : ℕ := ⌊F.mul k b⌋₊ + 1

theorem edge_zero (F : FloatArith) (b : ℚ) : edge F b 0 = 1 := by simp [edge, FloatArith.mul]

/-- A part of width at least one is not empty, where the rounding sees a step of one. -/
theorem edge_lt_succ {F : FloatArith} {b : ℚ} (wide : 1 ≤ b) {i : ℕ}
    (seen : ∀ {k : ℕ}, (k : ℚ) ≤ F.round (i * b) → ((k + 1 : ℕ) : ℚ) ≤ F.round (i * b + 1)) :
    edge F b i < edge F b (i + 1) := by
  have nonneg : 0 ≤ (i : ℚ) * b := mul_nonneg i.cast_nonneg (zero_le_one.trans wide)
  have step : (i : ℚ) * b + 1 ≤ ((i + 1 : ℕ) : ℚ) * b := by
    push_cast
    linarith
  have here := Nat.floor_le (F.round_nonneg nonneg)
  have reached := (seen here).trans (F.mono step)
  exact Nat.succ_lt_succ (Nat.le_floor reached)

section

variable {m p : ℕ} (pos : 0 < m) (le : m ≤ p)

include pos

theorem edge_exact_top : edge .exact (FloatArith.exact.div p m) m = p + 1 := by
  have ne : (m : ℚ) ≠ 0 := Nat.cast_ne_zero.mpr pos.ne'
  rw [edge, FloatArith.exact_mul, FloatArith.exact_div, mul_div_cancel₀ _ ne, Nat.floor_natCast]

include le

theorem one_le_width : 1 ≤ (p : ℚ) / m := by
  rw [le_div_iff₀ (by exact_mod_cast pos), one_mul]
  exact_mod_cast le

theorem exact_cuts : Cuts (edge .exact (FloatArith.exact.div p m)) m (p + 2) where
  first := edge_zero _ _
  step i _ := by
    refine edge_lt_succ (one_le_width pos le) ?_
    intro k below
    push_cast
    exact add_le_add_left below 1
  top := by
    rw [edge_exact_top pos]
    omega

variable (small : p < 2 ^ 51)

include small

/-- The rounded width is off by less than a quarter of an index over all parts. -/
theorem binary64_width : |(m : ℚ) * binary64.div p m - p| ≤ 1 / 4 := by
  have wide := one_le_width pos le
  have positive : (0 : ℚ) < m := by exact_mod_cast pos
  have error := Binary64.abs_round_sub_le_mul (x := (p : ℚ) / m) (by linarith)
    (Binary64.lt_exponent_of_one_le (wide.trans (le_abs_self _)))
  rw [abs_of_nonneg (zero_le_one.trans wide)] at error
  have scaled := mul_le_mul_of_nonneg_left error positive.le
  have whole : (m : ℚ) * ((p : ℚ) / m) = p := mul_div_cancel₀ _ positive.ne'
  have size : (p : ℚ) ≤ 2 ^ 51 := by exact_mod_cast small.le
  calc |(m : ℚ) * binary64.div p m - p|
      = m * |Binary64.round (p / m) - p / m| := by
        rw [← abs_of_pos positive, ← abs_mul, abs_of_pos positive, mul_sub, whole]
        rfl
    _ ≤ m * (2 ^ (-53 : ℤ) * ((p : ℚ) / m)) := scaled
    _ = 2 ^ (-53 : ℤ) * p := by rw [mul_left_comm, whole]
    _ ≤ 1 / 4 := by
        norm_num
        linarith

theorem le_edge_binary64 : p ≤ edge binary64 (binary64.div p m) m := by
  have low := (abs_le.mp (binary64_width pos le small)).1
  have float : binary64.IsFloat ((p - 1 : ℕ) : ℚ) := Binary64.isFloat_natCast (by omega)
  have reached := FloatArith.le_round float
    (show ((p - 1 : ℕ) : ℚ) ≤ m * binary64.div p m by
      rw [Nat.cast_pred (by omega)]
      linarith)
  have floor : p - 1 ≤ ⌊binary64.mul m (binary64.div p m)⌋₊ := Nat.le_floor reached
  unfold edge
  omega

/-- Eleven parts of fifteen indices leave the last index over. -/
example : edge binary64 (binary64.div 15 11) 11 = 15 ∧
    edge .exact (FloatArith.exact.div 15 11) 11 = 16 := by
  decide +kernel

theorem binary64_cuts : Cuts (edge binary64 (binary64.div p m)) m (p + 2) where
  first := edge_zero _ _
  step i bound := by
    have wide : 1 ≤ binary64.div p m :=
      FloatArith.le_round binary64.isFloat_one (one_le_width pos le)
    refine edge_lt_succ wide ?_
    intro k below
    refine Binary64.succ_le_round (mul_nonneg i.cast_nonneg (zero_le_one.trans wide)) ?_ below
    -- the parts up to this one and one more are no wider than twice the run
    have high := (abs_le.mp (binary64_width pos le small)).2
    have inside : (i : ℚ) * binary64.div p m ≤ m * binary64.div p m :=
      mul_le_mul_of_nonneg_right (by exact_mod_cast bound) (zero_le_one.trans wide)
    have size : (p : ℚ) < 2 ^ 51 := by exact_mod_cast small
    linarith
  top := by
    have high := (abs_le.mp (binary64_width pos le small)).2
    have float : binary64.IsFloat ((p : ℚ) + 1 / 2) := by
      refine Binary64.isFloat_iff.mpr ⟨2 * p + 1, -1, ?_, by norm_num, ?_⟩
      · rw [abs_of_nonneg (by omega)]
        omega
      · push_cast
        norm_num
        ring
    have below := FloatArith.round_le float
      (show (m : ℚ) * binary64.div p m ≤ p + 1 / 2 by linarith)
    have floor : ⌊binary64.mul m (binary64.div p m)⌋₊ < p + 1 := by
      refine (Nat.floor_mono below).trans_lt ((Nat.floor_lt (by positivity)).mpr ?_)
      push_cast
      linarith
    unfold edge
    omega

end

end LocoTwin.Lib
