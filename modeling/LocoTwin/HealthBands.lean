/-
# HealthBands -- the published category against the published score

The processor and the analytics fallback choose the category on the unrounded score and
round the score afterwards, to 2 and to 1 digits.  What is published, and what the fleet
query and the report band again, is the rounded score.  All of it is in doubles.

* **`category_matches_iff`**: category and score agree exactly when the loss leaves a score
  in none of the two slices just below 80 and 50 that the rounding takes to the band edge.
-/
import LocoTwin.HealthAgreement
import LocoTwin.Lib.Binary64
import LocoTwin.Processor.HealthFloats

namespace LocoTwin.HealthBands

open LocoTwin.Lib LocoTwin.Shared LocoTwin.Processor

set_option autoImplicit false

/-- The category names the band of the score. -/
def BandMatches (category : String) (score : PyFloat) : Prop :=
  (category = "Норма" ↔ 80 ≤ score) ∧
    (category = "Внимание" ↔ 50 ≤ score ∧ score < 80) ∧
    (category = "Критично" ↔ score < 50)

/-- The loss leaves a score below a band edge by no more than half a unit of the `n`-th
place. -/
def InSlice (n : ℕ) (loss : PyFloat) : Prop :=
  let score := binary64.sub 100 loss
  (80 - 1 / 2 / 10 ^ n ≤ score ∧ score < 80) ∨ (50 - 1 / 2 / 10 ^ n ≤ score ∧ score < 50)

/-- What the fallback takes off 100. -/
def snapshotLoss (rows : List Analytics.LatestReading) : PyFloat :=
  binary64.mul
    (binary64.sum (rows.map fun row =>
      Analytics.sensorPenalty binary64 row.sensorType row.value)) 100

/-! ## Bands -/

theorem bandMatches_iff (category : String) (score : PyFloat) :
    BandMatches category score ↔ category = hiCategory score := by
  unfold BandMatches hiCategory hiCategoryNormal hiCategoryWarning
  constructor
  · rintro ⟨normal, warning, critical⟩
    split_ifs with high middle
    · exact normal.mpr high
    · exact warning.mpr ⟨middle, not_le.mp high⟩
    · exact critical.mpr (not_le.mp middle)
  · rintro rfl
    split_ifs with high middle
    · have above : (50 : PyFloat) ≤ score := by linarith
      simp [high, above, not_lt.mpr]
    · simp [high, middle, not_lt.mpr middle, not_le.mp high]
    · have below : score < 50 := not_le.mp middle
      simp [high, middle, below]

/-- Rounded to a decimal and then to a float, a value reaches an integer as the decimal does,
where the decimal below it is a float below it. -/
theorem le_float_roundTo_iff {F : FloatArith} {cut : ℤ} (n : ℕ) (float : F.IsFloat cut)
    (below : F.round (cut - 1 / 10 ^ n) < cut) (x : PyFloat) :
    (cut : PyFloat) ≤ F.roundTo n x ↔ (cut : PyFloat) ≤ roundTo n x := by
  have pos : (0 : PyFloat) < 10 ^ n := by positivity
  constructor
  · intro reached
    by_contra short
    have digits : roundHalfEven (x * 10 ^ n) ≤ cut * 10 ^ n - 1 := by
      have lt : (roundHalfEven (x * 10 ^ n) : PyFloat) < cut * 10 ^ n :=
        (div_lt_iff₀ pos).mp (not_le.mp short)
      have whole : roundHalfEven (x * 10 ^ n) < cut * 10 ^ n := by exact_mod_cast lt
      omega
    have decimal : roundTo n x ≤ cut - 1 / 10 ^ n := by
      have cast : (roundHalfEven (x * 10 ^ n) : PyFloat) ≤ cut * 10 ^ n - 1 := by
        exact_mod_cast digits
      rw [roundTo, div_le_iff₀ pos, sub_mul, div_mul_cancel₀ _ pos.ne']
      exact cast
    exact absurd (reached.trans (F.mono decimal)) (not_le.mpr below)
  · exact FloatArith.le_round float

/-- A band edge is reached by the rounded score half a unit of the last place early. -/
theorem le_roundTo_clampScore_iff {F : FloatArith} (cut : ℤ) (even : cut % 2 = 0) (low : 1 ≤ cut)
    (top : cut ≤ 100) (n : ℕ) (float : F.IsFloat cut)
    (below : F.round (cut - 1 / 10 ^ n) < cut) (raw : PyFloat) :
    (cut : PyFloat) ≤ F.roundTo n (clampScore raw) ↔ cut - 1 / 2 / 10 ^ n ≤ raw := by
  have pos : (0 : PyFloat) < 10 ^ n := by positivity
  have low' : (1 : PyFloat) ≤ cut := by exact_mod_cast low
  have top' : (cut : PyFloat) ≤ 100 := by exact_mod_cast top
  have unit : (0 : PyFloat) < 1 / 2 / 10 ^ n := by positivity
  have half : (1 : PyFloat) / 2 / 10 ^ n ≤ 1 / 2 :=
    div_le_self (by norm_num) (one_le_pow₀ (by norm_num))
  have scaled : (cut * 10 ^ n : ℤ) % 2 = 0 := by
    rw [Int.mul_emod, even, zero_mul, Int.zero_emod]
  have cast : (cut : PyFloat) = ((cut * 10 ^ n : ℤ) : PyFloat) / 10 ^ n := by
    push_cast
    rw [mul_div_cancel_right₀ _ pos.ne']
  have edge : (((cut * 10 ^ n : ℤ) : PyFloat) - 1 / 2) / 10 ^ n = cut - 1 / 2 / 10 ^ n := by
    rw [sub_div, ← cast]
  rw [le_float_roundTo_iff n float below]
  conv_lhs => rw [cast]
  rw [le_roundTo_of_even scaled, edge,
    HealthAgreement.le_clampScore_iff (by linarith) (by linarith)]

/-- Two bandings agree when their cuts do. -/
theorem bands_eq_iff {p q p' q' : Prop} [Decidable p] [Decidable q] [Decidable p'] [Decidable q']
    (nested : p → q) (nested' : p' → q') :
    ((if p then "Норма" else if q then "Внимание" else "Критично") =
        (if p' then "Норма" else if q' then "Внимание" else "Критично")) ↔
      (p ↔ p') ∧ (q ↔ q') := by
  split_ifs <;> simp_all

/-- A cut moved down by `unit` separates the same scores unless one lies in between. -/
theorem cut_moved_iff {unit : PyFloat} (pos : 0 < unit) (cut score : PyFloat) :
    (cut ≤ score ↔ cut - unit ≤ score) ↔ ¬(cut - unit ≤ score ∧ score < cut) := by
  constructor
  · rintro same ⟨within, below⟩
    exact absurd (same.mpr within) (not_le.mpr below)
  · intro out
    refine ⟨fun above => by linarith, fun within => ?_⟩
    by_contra below
    exact out ⟨within, not_le.mp below⟩

/-- Category before, score after rounding to `n` places. -/
theorem bandMatches_rounded_iff (n : ℕ) (loss : PyFloat)
    (normalEdge : binary64.round (((80 : ℤ) : PyFloat) - 1 / 10 ^ n) < ((80 : ℤ) : PyFloat))
    (warningEdge : binary64.round (((50 : ℤ) : PyFloat) - 1 / 10 ^ n) < ((50 : ℤ) : PyFloat)) :
    BandMatches (hiCategory (clampScore (binary64.sub 100 loss)))
        (binary64.roundTo n (clampScore (binary64.sub 100 loss))) ↔
      ¬InSlice n loss := by
  have unit : (0 : PyFloat) < 1 / 2 / 10 ^ n := by positivity
  set score := binary64.sub 100 loss with score_eq
  have normal := le_roundTo_clampScore_iff 80 (by decide) (by decide) (by decide) n
    (by decide +kernel) normalEdge score
  have warning := le_roundTo_clampScore_iff 50 (by decide) (by decide) (by decide) n
    (by decide +kernel) warningEdge score
  have normal' : 80 ≤ clampScore score ↔ 80 ≤ score :=
    HealthAgreement.le_clampScore_iff (by norm_num) (by norm_num) score
  have warning' : 50 ≤ clampScore score ↔ 50 ≤ score :=
    HealthAgreement.le_clampScore_iff (by norm_num) (by norm_num) score
  rw [show ((80 : ℤ) : PyFloat) = 80 by norm_num] at normal
  rw [show ((50 : ℤ) : PyFloat) = 50 by norm_num] at warning
  rw [bandMatches_iff]
  simp only [hiCategory, hiCategoryNormal, hiCategoryWarning, normal, warning, normal', warning']
  rw [bands_eq_iff (fun h => by linarith) (fun h => by linarith), cut_moved_iff unit,
    cut_moved_iff unit, ← not_or, InSlice, ← score_eq]

/-! ## The two services -/

/-- **The published category is the band of the published score exactly when the loss is
in no slice**: of 0.005 below 80 or 50 for the processor, of 0.05 for the fallback. -/
theorem category_matches_iff (M : PyMath) (now : Datetime) (damage : DamageState)
    (reading : TelemetryReading) (locomotiveId : String) (rows : List Analytics.LatestReading) :
    ((∀ health, (Floats.calculateHealth binary64 M now damage reading).1 = .ok health →
        BandMatches health.category health.overallScore) ↔
      ∀ loss, Floats.readingLoss binary64 M damage reading = .ok loss → ¬InSlice 2 loss) ∧
    (BandMatches (Analytics.computeHealthFromReadings binary64 now locomotiveId rows).category
        (Analytics.computeHealthFromReadings binary64 now locomotiveId rows).overallScore ↔
      ¬InSlice 1 (snapshotLoss rows)) := by
  constructor
  · have index := Floats.calculateHealth_score binary64 M now damage reading
    cases out : (Floats.calculateHealth binary64 M now damage reading).1 with
    | error exc =>
        cases sum : Floats.readingLoss binary64 M damage reading with
        | error exc' => simp
        | ok loss => simp [out, sum, Except.map] at index
    | ok health =>
        cases sum : Floats.readingLoss binary64 M damage reading with
        | error exc => simp [out, sum, Except.map] at index
        | ok loss =>
            simp only [out, sum, Except.map, Except.ok.injEq, Prod.mk.injEq] at index
            simp only [Except.ok.injEq, forall_eq', index.1, index.2]
            exact bandMatches_rounded_iff 2 loss (by decide +kernel) (by decide +kernel)
  · exact bandMatches_rounded_iff 1 (snapshotLoss rows) (by decide +kernel) (by decide +kernel)

/-- Overheated coolant costs 20; an engine at 901.5 costs 0.0015 more. -/
def hotAndFast : TelemetryReading where
  locomotiveId := 7
  locomotiveType := .te33a
  timestamp := 0
  sensors := [⟨.coolantTemp, 96, "°C"⟩, ⟨.dieselRpm, 901.5, "rpm"⟩]

/-- Coolant at twice its bound costs the fallback 20; the oil pressure costs 0.03 more. -/
def hotAndThin : List Analytics.LatestReading :=
  [⟨.coolantTemp, 190, "°C", .te33a⟩, ⟨.oilPressure, binary64.round 3.255, "bar", .te33a⟩]

/-- Powers rounded to the nearest double. -/
def powers : PyMath where
  pow x k := binary64.round (PyMath.onIntegers.pow x k)
  exp2 := PyMath.onIntegers.exp2

theorem hotAndFast_mismatch :
    (Floats.calculateHealth binary64 powers 0 Dict.empty hotAndFast).1.map
        (fun health => (health.overallScore, health.category)) = .ok (80, "Внимание") ∧
      ((Analytics.computeHealthFromReadings binary64 0 "" hotAndThin).overallScore,
        (Analytics.computeHealthFromReadings binary64 0 "" hotAndThin).category) =
          (80, "Внимание") ∧
      ¬BandMatches "Внимание" 80 := by
  refine ⟨by decide +kernel, by decide +kernel, ?_⟩
  rw [bandMatches_iff]
  decide +kernel

end LocoTwin.HealthBands
