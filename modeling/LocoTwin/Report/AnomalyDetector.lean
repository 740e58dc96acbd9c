/-
# Report.AnomalyDetector -- values far from the mean of their window

`detect_zscore_anomalies` flags the values more than `threshold` standard deviations from
the mean.  The standard deviation is a square root, so the comparison is one of squares
here; `exceeds_iff` says over the reals that it is the comparison of the code.

* `zscore_bounds`: how many values a window of `n` can flag, and that it flags none for
  `n <= threshold ** 2 + 1`; what raising the threshold and rescaling the values does.
-/
import LocoTwin.Lib.Dispersion
import LocoTwin.Shared.Python
import Mathlib.Algebra.BigOperators.Fin
import Mathlib.Analysis.Real.Sqrt

namespace LocoTwin.Report

open LocoTwin.Lib LocoTwin.Shared

set_option autoImplicit false

/-- `abs(v - mean) / std > threshold`, with `std` the root of `variance`. -/
def exceeds (threshold variance deviation : PyFloat) : Bool :=
  decide (threshold < 0 ∨ threshold ^ 2 * variance < deviation ^ 2)

def detectZscoreAnomalies (values : List PyFloat) (threshold : PyFloat) : List Nat :=
  if values.length < 2 then []
  else
    let mean : PyFloat := values.sum / values.length
    let variance : PyFloat := (values.map fun v => (v - mean) ^ 2).sum / values.length
    if variance = 0 then []
    else (values.zipIdx.filter fun e => exceeds threshold variance (e.1 - mean)).map Prod.snd

/-- The comparison of squares is that of the code. -/
theorem exceeds_iff {threshold variance : PyFloat} (pos : 0 < variance) (deviation : PyFloat) :
    exceeds threshold variance deviation = true ↔
      (threshold : ℝ) < |(deviation : ℝ)| / √(variance : ℝ) := by
  have root : 0 < √(variance : ℝ) := Real.sqrt_pos.mpr (Rat.cast_pos.mpr pos)
  rw [exceeds, decide_eq_true_eq, lt_div_iff₀ root]
  rcases lt_or_ge threshold 0 with below | nonneg
  · refine iff_of_true (.inl below) ?_
    have product : (threshold : ℝ) * √(variance : ℝ) < 0 :=
      mul_neg_of_neg_of_pos (Rat.cast_lt_zero.mpr below) root
    exact product.trans_le (abs_nonneg _)
  · have nonneg' : (0 : ℝ) ≤ threshold * √(variance : ℝ) :=
      mul_nonneg (Rat.cast_nonneg.mpr nonneg) root.le
    rw [or_iff_right (not_lt.mpr nonneg), ← abs_of_nonneg nonneg', ← sq_lt_sq, mul_pow,
      Real.sq_sqrt (Rat.cast_nonneg.mpr pos.le)]
    exact_mod_cast Iff.rfl

/-! ## The window -/

variable {values : List PyFloat} {threshold : PyFloat}

theorem mean_get (values : List PyFloat) :
    mean values.get = values.sum / values.length := by
  unfold mean
  rw [Fintype.card_fin, ← List.sum_ofFn, List.ofFn_get]

theorem variance_get (values : List PyFloat) :
    variance values.get =
      (values.map fun v => (v - values.sum / values.length) ^ 2).sum / values.length := by
  have squares (m : PyFloat) : (List.ofFn fun i => (values.get i - m) ^ 2) =
      values.map fun v => (v - m) ^ 2 := by
    conv_rhs => rw [← List.ofFn_get values, List.map_ofFn]
    rfl
  unfold variance deviation
  rw [Fintype.card_fin, mean_get, ← List.sum_ofFn, squares]

/-- The detector lists the outliers of its window. -/
theorem mem_detect (pos : 0 < threshold) (i : Nat) :
    i ∈ detectZscoreAnomalies values threshold ↔
      ∃ h : i < values.length, variance values.get ≠ 0 ∧
        ⟨i, h⟩ ∈ outliers threshold values.get := by
  unfold detectZscoreAnomalies
  split
  case isTrue short =>
    refine iff_of_false List.not_mem_nil ?_
    rintro ⟨h, -, far⟩
    have few : (Fintype.card (Fin values.length) : PyFloat) ≤ threshold ^ 2 + 1 := by
      have one : ((values.length : ℕ) : PyFloat) ≤ 1 := by exact_mod_cast Nat.lt_succ_iff.mp short
      rw [Fintype.card_fin]
      linarith [sq_nonneg threshold]
    rw [outliers_eq_empty few] at far
    exact absurd far (Finset.notMem_empty _)
  case isFalse =>
    dsimp only
    rw [← variance_get]
    split
    case isTrue zero =>
      refine iff_of_false List.not_mem_nil ?_
      rintro ⟨-, nonzero, -⟩
      exact nonzero zero
    case isFalse nonzero =>
      simp only [List.mem_map, List.mem_filter, Prod.exists, exists_eq_right,
        List.mk_mem_zipIdx_iff_getElem?, exceeds, decide_eq_true_eq, mem_outliers, deviation,
        mean_get, or_iff_right (not_lt.mpr pos.le), List.getElem?_eq_some_iff]
      constructor
      · rintro ⟨v, ⟨h, rfl⟩, far⟩
        exact ⟨h, nonzero, far⟩
      · rintro ⟨h, -, far⟩
        exact ⟨values[i], ⟨h, rfl⟩, far⟩

theorem detect_sorted (values : List PyFloat) (threshold : PyFloat) :
    (detectZscoreAnomalies values threshold).Pairwise (· < ·) := by
  have indices : (values.zipIdx.map Prod.snd).Pairwise (· < ·) := by
    rw [List.zipIdx_map_snd]
    exact List.pairwise_lt_range'
  unfold detectZscoreAnomalies
  split
  · exact .nil
  · dsimp only
    split
    · exact .nil
    · exact indices.sublist (List.filter_sublist.map Prod.snd)

theorem detect_nodup (values : List PyFloat) (threshold : PyFloat) :
    (detectZscoreAnomalies values threshold).Nodup :=
  (detect_sorted values threshold).imp ne_of_lt

/-- It has as many entries as there are outliers. -/
theorem length_detect (pos : 0 < threshold) (nonzero : variance values.get ≠ 0) :
    (detectZscoreAnomalies values threshold).length =
      (outliers threshold values.get).card := by
  have same : (detectZscoreAnomalies values threshold).toFinset =
      (outliers threshold values.get).map Fin.valEmbedding := by
    ext i
    simp only [List.mem_toFinset, mem_detect pos, Finset.mem_map, Fin.valEmbedding_apply]
    constructor
    · rintro ⟨h, -, far⟩
      exact ⟨⟨i, h⟩, far, rfl⟩
    · rintro ⟨j, far, rfl⟩
      exact ⟨j.isLt, nonzero, far⟩
  rw [← List.toFinset_card_of_nodup (detect_nodup values threshold), same, Finset.card_map]

theorem detect_affine (pos : 0 < threshold) {a : PyFloat} (nonzero : a ≠ 0) (b : PyFloat)
    (values : List PyFloat) :
    detectZscoreAnomalies (values.map fun v => a * v + b) threshold =
      detectZscoreAnomalies values threshold := by
  have length : (values.map fun v => a * v + b).length = values.length := List.length_map _
  have get : (values.map fun v => a * v + b).get =
      (fun i => a * values.get i + b) ∘ finCongr length := by
    funext i
    simp
  have scale : a ^ 2 ≠ 0 := pow_ne_zero 2 nonzero
  apply (detect_sorted _ threshold).eq_of_mem_iff (detect_sorted values threshold)
  intro i
  rw [mem_detect pos, mem_detect pos, get, variance_comp, variance_affine]
  constructor
  · rintro ⟨h, spread, far⟩
    rw [mem_outliers_comp, outliers_affine nonzero] at far
    exact ⟨length ▸ h, right_ne_zero_of_mul spread, far⟩
  · rintro ⟨h, spread, far⟩
    refine ⟨length ▸ h, mul_ne_zero scale spread, ?_⟩
    rw [mem_outliers_comp, outliers_affine nonzero]
    exact far

/-! ## The bounds -/

/-- What the detector promises for a window and a threshold. -/
structure ZscoreBounds (values : List PyFloat) (threshold : PyFloat) : Prop where
  sorted : (detectZscoreAnomalies values threshold).Pairwise (· < ·)
  few : detectZscoreAnomalies values threshold ≠ [] →
    (detectZscoreAnomalies values threshold).length * threshold ^ 2 < values.length
  short : (values.length : PyFloat) ≤ threshold ^ 2 + 1 →
    detectZscoreAnomalies values threshold = []
  raised : ∀ threshold', threshold ≤ threshold' →
    (detectZscoreAnomalies values threshold').Sublist (detectZscoreAnomalies values threshold)
  scaled : ∀ a b, a ≠ 0 → detectZscoreAnomalies (values.map fun v => a * v + b) threshold =
    detectZscoreAnomalies values threshold

/-- **Z-score detection obeys its bounds**, for every window and every positive threshold. -/
theorem zscore_bounds (values : List PyFloat) {threshold : PyFloat} (pos : 0 < threshold) :
    ZscoreBounds values threshold where
  sorted := detect_sorted values threshold
  few := by
    intro some'
    obtain ⟨i, mem⟩ := List.exists_mem_of_ne_nil _ some'
    obtain ⟨h, nonzero, far⟩ := (mem_detect pos i).mp mem
    have spread : 0 < variance values.get := (variance_nonneg _).lt_of_ne' nonzero
    have bound := card_outliers_lt spread ⟨_, far⟩
    rw [Fintype.card_fin] at bound
    rw [length_detect pos nonzero]
    exact bound
  short := by
    intro few
    rw [List.eq_nil_iff_forall_not_mem]
    intro i mem
    obtain ⟨h, -, far⟩ := (mem_detect pos i).mp mem
    rw [outliers_eq_empty (by rw [Fintype.card_fin]; exact few)] at far
    exact absurd far (Finset.notMem_empty _)
  raised := by
    intro threshold' le
    have subset : detectZscoreAnomalies values threshold' ⊆
        detectZscoreAnomalies values threshold := by
      intro i mem
      obtain ⟨h, nonzero, far⟩ := (mem_detect (pos.trans_le le) i).mp mem
      exact (mem_detect pos i).mpr ⟨h, nonzero, outliers_anti pos.le le _ far⟩
    exact List.sublist_of_subperm_of_pairwise
      ((detect_nodup values threshold').subperm subset)
      (detect_sorted values threshold') (detect_sorted values threshold)
  scaled := by
    intro a b nonzero
    exact detect_affine pos nonzero b values

example : detectZscoreAnomalies (List.replicate 10 1 ++ [100]) 3 = [10] := by decide +kernel

/-- Ten equal values and an outlier, with the threshold 3. -/
theorem zscore_bounds_eleven : ZscoreBounds (List.replicate 10 1 ++ [100]) 3 :=
  zscore_bounds _ (by norm_num)

end LocoTwin.Report
