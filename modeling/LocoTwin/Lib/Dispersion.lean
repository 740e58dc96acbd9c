/-
# Lib.Dispersion -- how many values can lie far from their mean

`mean` and `variance` of finitely many values in an ordered field.  An outlier is a value
whose squared deviation is above a multiple of the variance; no square root is taken.

* `card_outliers_lt`: outliers are few (Chebyshev), since their squared deviations alone
  must fit into the sum;
* `sq_deviation_le`: no value deviates by more than the others balance (Samuelson), so a
  few values have no outliers at all (`outliers_eq_empty`);
* `outliers_anti`, `outliers_affine`: a higher threshold leaves fewer, and a change of scale
  leaves the same.
-/
import Mathlib.Algebra.Order.BigOperators.Ring.Finset
import Mathlib.Algebra.Order.Chebyshev
import Mathlib.Algebra.BigOperators.Field
import Mathlib.Tactic.FieldSimp
import Mathlib.Tactic.Linarith
import Mathlib.Tactic.Ring

namespace LocoTwin.Lib

open Finset

set_option autoImplicit false

variable {ι R : Type} [Fintype ι] [Field R]

def mean (x : ι → R) : R := (∑ i, x i) / Fintype.card ι

/-- The deviation of a value from the mean. -/
def deviation (x : ι → R) (i : ι) : R := x i - mean x

def variance (x : ι → R) : R := (∑ i, deviation x i ^ 2) / Fintype.card ι

section

variable [LinearOrder R]

/-- The values further from the mean than `t` standard deviations. -/
def outliers (t : R) (x : ι → R) : Finset ι := {i | t ^ 2 * variance x < deviation x i ^ 2}

theorem mem_outliers {t : R} {x : ι → R} {i : ι} :
    i ∈ outliers t x ↔ t ^ 2 * variance x < deviation x i ^ 2 := by
  simp [outliers]

end

theorem card_mul_mean [CharZero R] [Nonempty ι] (x : ι → R) :
    Fintype.card ι * mean x = ∑ i, x i := by
  have card : (Fintype.card ι : R) ≠ 0 := Nat.cast_ne_zero.mpr Fintype.card_ne_zero
  exact mul_div_cancel₀ _ card

theorem card_mul_variance [CharZero R] [Nonempty ι] (x : ι → R) :
    Fintype.card ι * variance x = ∑ i, deviation x i ^ 2 := by
  have card : (Fintype.card ι : R) ≠ 0 := Nat.cast_ne_zero.mpr Fintype.card_ne_zero
  exact mul_div_cancel₀ _ card

/-- The deviations balance. -/
theorem sum_deviation [CharZero R] (x : ι → R) : ∑ i, deviation x i = 0 := by
  cases isEmpty_or_nonempty ι with
  | inl empty => exact Fintype.sum_empty _
  | inr nonempty =>
      unfold deviation
      rw [sum_sub_distrib, sum_const, card_univ, nsmul_eq_mul, card_mul_mean, sub_self]

/-! ## Other indices -/

section

variable {κ : Type} [Fintype κ] (e : κ ≃ ι) (x : ι → R)

theorem mean_comp : mean (x ∘ e) = mean x := by
  unfold mean
  rw [Fintype.card_congr e]
  exact congrArg (· / _) (Equiv.sum_comp e x)

theorem deviation_comp (k : κ) : deviation (x ∘ e) k = deviation x (e k) :=
  congrArg (x (e k) - ·) (mean_comp e x)

theorem variance_comp : variance (x ∘ e) = variance x := by
  unfold variance
  simp only [deviation_comp, Fintype.card_congr e]
  exact congrArg (· / _) (Equiv.sum_comp e fun i => deviation x i ^ 2)

theorem mem_outliers_comp [LinearOrder R] (t : R) (k : κ) :
    k ∈ outliers t (x ∘ e) ↔ e k ∈ outliers t x := by
  rw [mem_outliers, mem_outliers, variance_comp, deviation_comp]

end

/-! ## A change of scale -/

theorem mean_affine [CharZero R] [Nonempty ι] (a b : R) (x : ι → R) :
    mean (fun i => a * x i + b) = a * mean x + b := by
  have card : (Fintype.card ι : R) ≠ 0 := Nat.cast_ne_zero.mpr Fintype.card_ne_zero
  unfold mean
  rw [sum_add_distrib, ← mul_sum, sum_const, card_univ, nsmul_eq_mul]
  field_simp

theorem deviation_affine [CharZero R] (a b : R) (x : ι → R) (i : ι) :
    deviation (fun i => a * x i + b) i = a * deviation x i := by
  have : Nonempty ι := ⟨i⟩
  unfold deviation
  rw [mean_affine]
  ring

theorem variance_affine [CharZero R] (a b : R) (x : ι → R) :
    variance (fun i => a * x i + b) = a ^ 2 * variance x := by
  unfold variance
  simp only [deviation_affine, mul_pow]
  rw [← mul_sum, mul_div_assoc]

section

variable [LinearOrder R] [IsStrictOrderedRing R] {t : R} {x : ι → R}

theorem outliers_affine {a : R} (nonzero : a ≠ 0) (b t : R) (x : ι → R) :
    outliers t (fun i => a * x i + b) = outliers t x := by
  have pos : 0 < a ^ 2 := by positivity
  ext i
  rw [mem_outliers, mem_outliers, variance_affine, deviation_affine, mul_pow, mul_left_comm,
    mul_lt_mul_iff_right₀ pos]

/-! ## Few outliers -/

theorem variance_nonneg (x : ι → R) : 0 ≤ variance x :=
  div_nonneg (sum_nonneg fun _ _ => sq_nonneg _) (Nat.cast_nonneg _)

theorem outliers_anti {s : R} (nonneg : 0 ≤ s) (le : s ≤ t) (x : ι → R) :
    outliers t x ⊆ outliers s x := by
  intro i far
  rw [mem_outliers] at far ⊢
  have lower : s ^ 2 * variance x ≤ t ^ 2 * variance x :=
    mul_le_mul_of_nonneg_right (pow_le_pow_left₀ nonneg le 2) (variance_nonneg x)
  exact lower.trans_lt far

/-- The squared deviations of the outliers fit into the sum of all. -/
theorem card_outliers_lt (pos : 0 < variance x) (some' : (outliers t x).Nonempty) :
    ((outliers t x).card : R) * t ^ 2 < Fintype.card ι := by
  have : Nonempty ι := ⟨some'.choose⟩
  have fit : ∑ i ∈ outliers t x, deviation x i ^ 2 ≤ ∑ i, deviation x i ^ 2 :=
    sum_le_univ_sum_of_nonneg fun _ => sq_nonneg _
  have each : ∑ _i ∈ outliers t x, t ^ 2 * variance x < ∑ i ∈ outliers t x, deviation x i ^ 2 :=
    sum_lt_sum_of_nonempty some' fun i far => mem_outliers.mp far
  rw [sum_const, nsmul_eq_mul] at each
  rw [← card_mul_variance] at fit
  have room : (outliers t x).card * (t ^ 2 * variance x) < Fintype.card ι * variance x :=
    each.trans_le fit
  rw [← mul_assoc] at room
  exact lt_of_mul_lt_mul_right room pos.le

/-- A value deviates by as much as the others together, who spread it among them. -/
theorem sq_deviation_le (x : ι → R) (i : ι) :
    deviation x i ^ 2 ≤ (Fintype.card ι - 1) * variance x := by
  classical
  have : Nonempty ι := ⟨i⟩
  have card : (0 : R) < Fintype.card ι := Nat.cast_pos.mpr Fintype.card_pos
  have others : ((univ.erase i).card : R) = Fintype.card ι - 1 := by
    rw [card_erase_of_mem (mem_univ i), card_univ, Nat.cast_pred Fintype.card_pos]
  have balance : ∑ j ∈ univ.erase i, deviation x j = -deviation x i := by
    have total := add_sum_erase univ (deviation x) (mem_univ i)
    rw [sum_deviation] at total
    linarith
  have squares := add_sum_erase univ (fun j => deviation x j ^ 2) (mem_univ i)
  have spread := sq_sum_le_card_mul_sum_sq (s := univ.erase i) (f := deviation x)
  rw [balance, neg_sq, others] at spread
  have scaled : Fintype.card ι * deviation x i ^ 2 ≤
      Fintype.card ι * ((Fintype.card ι - 1) * variance x) := by
    calc (Fintype.card ι : R) * deviation x i ^ 2
        = deviation x i ^ 2 + (Fintype.card ι - 1) * deviation x i ^ 2 := by ring
      _ ≤ (Fintype.card ι - 1) * ∑ j ∈ univ.erase i, deviation x j ^ 2 +
            (Fintype.card ι - 1) * deviation x i ^ 2 := by linarith
      _ = (Fintype.card ι - 1) * ∑ j, deviation x j ^ 2 := by rw [← squares]; ring
      _ = Fintype.card ι * ((Fintype.card ι - 1) * variance x) := by
        rw [← card_mul_variance]; ring
  exact le_of_mul_le_mul_left scaled card

theorem outliers_eq_empty (few : (Fintype.card ι : R) ≤ t ^ 2 + 1) : outliers t x = ∅ := by
  rw [eq_empty_iff_forall_notMem]
  intro i far
  have near : deviation x i ^ 2 ≤ t ^ 2 * variance x :=
    (sq_deviation_le x i).trans (mul_le_mul_of_nonneg_right (by linarith) (variance_nonneg x))
  exact absurd (mem_outliers.mp far) (not_lt.mpr near)

end

end LocoTwin.Lib
