/-
# HealthAgreement -- the three health formulas side by side

The processor's index, the analytics fallback and the report's score use different
tables, notions of nominal and weights.  For a complete set of values without
accumulated damage each category is a band of one explicit sum over the sensors:

* `calculateHealth_category`: the processor's losses (`totalLoss`) against 20 and 50;
* `fallback_category`: the fallback's losses against 20 and 50;
* `report_category`: the weighted report scores, with the rounding of the mean
  resolved, against 0.79995 and 0.49995 of the total weight.

The categories agree exactly when the three sums lie in one row (`agree_iff`).  They
already differ on nominal values (`nominal_disagrees`).
-/
import LocoTwin.Analytics.Servicer
import LocoTwin.Processor.AlertMirror
import LocoTwin.Processor.HealthLoss
import LocoTwin.Report.HealthIndexCalculator
import Mathlib.Algebra.BigOperators.Ring.List
import Mathlib.Algebra.Order.BigOperators.Group.List

namespace LocoTwin.HealthAgreement

open LocoTwin.Lib LocoTwin.Shared LocoTwin.Processor

set_option autoImplicit false

/-- One value for each sensor of the locomotive's specifications. -/
def Complete (reading : TelemetryReading) : Prop :=
  (reading.sensors.map (·.sensorType)).Perm (locoSpecs reading.locomotiveType).keys

instance (reading : TelemetryReading) : Decidable (Complete reading) :=
  inferInstanceAs (Decidable (List.Perm _ _))

/-- No damage has been accumulated for the locomotive. -/
def Undamaged (damage : DamageState) (reading : TelemetryReading) : Prop :=
  ∀ key, damage.getD (UUID.str reading.locomotiveId, key) 0 = 0

/-- The rows the analytics service reads for the same values. -/
def latestReadings (reading : TelemetryReading) : List Analytics.LatestReading :=
  reading.sensors.map fun s =>
    { sensorType := s.sensorType, value := s.value, unit := s.unit,
      locomotiveType := reading.locomotiveType }

/-- The statistics the report reads for the same values. -/
def sensorStats (reading : TelemetryReading) : List (SensorType × PyFloat × String) :=
  reading.sensors.map fun s => (s.sensorType, s.value, s.unit)

/-- The processor's category is that of the fallback and the band of the report's
score, in whatever order the other services get the values. -/
def Agree (M : PyMath) (now : Datetime) (damage : DamageState) (reading : TelemetryReading) :
    Prop :=
  ∃ health, (calculateHealth M now damage reading).1 = .ok health ∧
    ∀ rows stats, rows.Perm (latestReadings reading) → stats.Perm (sensorStats reading) →
      health.category = (Analytics.computeHealthFromReadings .exact now
        (UUID.str reading.locomotiveId) rows).category ∧
      health.category = hiCategory (Report.reportScore stats)

/-! ## The sums behind the categories -/

/-- What one sensor costs the processor's index, the damage of this call included. -/
def sensorLoss (M : PyMath) (spec : SensorSpec) (value : PyFloat) : Except PyError PyFloat :=
  let penalty := (sensorPenalty M value spec).1
  if spec.isAgingParam then (damageAfter M 0 value spec).map (penalty + ·) else .ok penalty

/-- The losses of all sensors, or the first error. -/
def totalLoss (M : PyMath) (values : SensorType → PyFloat) :
    List (SensorType × SensorSpec) → Except PyError PyFloat
  | [] => .ok 0
  | (key, spec) :: rest =>
      (sensorLoss M spec (values key)).bind fun loss =>
        (totalLoss M values rest).map (loss + ·)

/-- The value reported for a sensor. -/
def valueOf (reading : TelemetryReading) (key : SensorType) : PyFloat :=
  (sensorMap reading).getD key 0

/-- The fallback's losses, in points of 100. -/
def fallbackLoss (reading : TelemetryReading) : PyFloat :=
  (reading.sensors.map fun s => Analytics.sensorPenalty .exact s.sensorType s.value * 100).sum

/-- The report's component scores, each times its weight. -/
def reportSum (reading : TelemetryReading) : PyFloat :=
  (reading.sensors.map fun s =>
    (Report.calculateComponentScore s.sensorType s.value s.unit).score *
      Report.weight s.sensorType).sum

def reportWeight (reading : TelemetryReading) : PyFloat :=
  (reading.sensors.map fun s => Report.weight s.sensorType).sum

/-- The three sums lie in the same row. -/
def SameRow (loss fallback report weight : PyFloat) : Prop :=
  (loss ≤ 20 ∧ fallback ≤ 20 ∧ 0.79995 * weight ≤ report) ∨
    ((20 < loss ∧ loss ≤ 50) ∧ (20 < fallback ∧ fallback ≤ 50) ∧
      (report < 0.79995 * weight ∧ 0.49995 * weight ≤ report)) ∨
    (50 < loss ∧ 50 < fallback ∧ report < 0.49995 * weight)

/-! ## The processor -/

/-- A cut inside the scale, on the clamped score. -/
theorem le_clampScore_iff {cut : PyFloat} (pos : 0 < cut) (top : cut ≤ 100) (raw : PyFloat) :
    cut ≤ clampScore raw ↔ cut ≤ raw := by
  rw [clampScore, le_max_iff, le_min_iff, or_iff_right (not_le.mpr pos), and_iff_right top]

theorem hiCategory_clampScore (loss : PyFloat) :
    hiCategory (clampScore (100 - loss)) =
      if loss ≤ 20 then "Норма" else if loss ≤ 50 then "Внимание" else "Критично" := by
  have normal : hiCategoryNormal ≤ clampScore (100 - loss) ↔ loss ≤ 20 := by
    rw [hiCategoryNormal, le_clampScore_iff (by norm_num) (by norm_num)]
    constructor <;> intro h <;> linarith
  have warning : hiCategoryWarning ≤ clampScore (100 - loss) ↔ loss ≤ 50 := by
    rw [hiCategoryWarning, le_clampScore_iff (by norm_num) (by norm_num)]
    constructor <;> intro h <;> linarith
  simp only [hiCategory, normal, warning]

/-- Where each sensor is reported, the losses are those of the values. -/
theorem sumSpecs_eq_totalLoss (M : PyMath) {values : SensorType → PyFloat}
    {sensors : Dict SensorType SensorPayload} {specs : List (SensorType × SensorSpec)}
    (present : ∀ e ∈ specs, ∃ s, sensors.get? e.1 = some s ∧ s.value = values e.1) :
    sumSpecs (fun key spec => specLoss M 0 (sensors.get? key) spec) specs =
      totalLoss M values specs := by
  induction specs with
  | nil => rfl
  | cons e rest ih =>
      obtain ⟨key, spec⟩ := e
      obtain ⟨sensor, found, value⟩ := present _ List.mem_cons_self
      have here : specLoss M 0 (sensors.get? key) spec = sensorLoss M spec (values key) := by
        rw [found, ← value]
        simp only [specLoss, specDamage, sensorLoss]
        split_ifs
        · rfl
        · simp [Except.map]
      simp only [sumSpecs, totalLoss]
      rw [here, ih fun e mem => present e (List.mem_cons_of_mem _ mem)]

/-- A complete reading reports each of its specifications' sensors. -/
theorem Complete.present {reading : TelemetryReading} (complete : Complete reading) :
    ∀ e ∈ (locoSpecs reading.locomotiveType).entries,
      ∃ s, (payloadMap reading).get? e.1 = some s ∧ s.value = valueOf reading e.1 := by
  intro e mem
  have reported : e.1 ∈ reading.sensors.map (·.sensorType) :=
    complete.mem_iff.mpr (List.mem_map_of_mem mem)
  cases found : (payloadMap reading).get? e.1 with
  | none => exact absurd reported (payloadMap_eq_none.mp found)
  | some s => exact ⟨s, rfl, by simp [valueOf, Dict.getD, sensorMap_get?, found]⟩

/-- The processor's category is the row of its total loss. -/
theorem calculateHealth_category (M : PyMath) (now : Datetime) {damage : DamageState}
    {reading : TelemetryReading} (complete : Complete reading)
    (undamaged : Undamaged damage reading) :
    (calculateHealth M now damage reading).1.map (·.category) =
      (totalLoss M (valueOf reading) (locoSpecs reading.locomotiveType).entries).map fun loss =>
        if loss ≤ 20 then "Норма" else if loss ≤ 50 then "Внимание" else "Критично" := by
  have before : damageBefore damage reading = fun _ => 0 := funext undamaged
  have total : readingLoss M damage reading =
      totalLoss M (valueOf reading) (locoSpecs reading.locomotiveType).entries := by
    rw [readingLoss, before]
    exact sumSpecs_eq_totalLoss M complete.present
  have index := congrArg (Except.map Prod.snd) (calculateHealth_eq M now damage reading).1
  rw [total] at index
  simp only [← hiCategory_clampScore]
  cases called : (calculateHealth M now damage reading).1 with
  | error exc =>
      cases summed : totalLoss M (valueOf reading) (locoSpecs reading.locomotiveType).entries with
      | error exc' => simpa [called, summed, Except.map] using index
      | ok loss => simp [called, summed, Except.map] at index
  | ok health =>
      cases summed : totalLoss M (valueOf reading) (locoSpecs reading.locomotiveType).entries with
      | error exc => simp [called, summed, Except.map] at index
      | ok loss => simpa [called, summed, Except.map] using index

/-! ## The fallback and the report -/

theorem fallback_category (now : Datetime) (locoId : String) {reading : TelemetryReading}
    {rows : List Analytics.LatestReading} (same : rows.Perm (latestReadings reading)) :
    (Analytics.computeHealthFromReadings .exact now locoId rows).category =
      if fallbackLoss reading ≤ 20 then "Норма"
      else if fallbackLoss reading ≤ 50 then "Внимание" else "Критично" := by
  have total : (rows.map fun row =>
        Analytics.sensorPenalty .exact row.sensorType row.value).sum * 100 =
      fallbackLoss reading := by
    rw [(same.map _).sum_eq, latestReadings, List.map_map, fallbackLoss, List.sum_map_mul_right]
    simp only [Function.comp_def]
  simp only [Analytics.computeHealthFromReadings, FloatArith.exact_sum, FloatArith.exact_mul, total]
  exact hiCategory_clampScore (fallbackLoss reading)

/-- A mean reaches a rounded threshold half a unit of the last place below it. -/
theorem le_roundTo_four {cut : ℤ} (even : cut % 2 = 0) (x : PyFloat) :
    (cut : PyFloat) / 100 ≤ roundTo 4 x * 100 ↔ ((cut : PyFloat) - 1 / 2) / 10000 ≤ x := by
  have place := le_roundTo_of_even even 4 x
  norm_num at place ⊢
  rw [← place]
  constructor <;> intro h <;> linarith

theorem calculateComponentScore_sensorType (sensorType : SensorType) (value : PyFloat)
    (unit : String) :
    (Report.calculateComponentScore sensorType value unit).sensorType = sensorType := by
  unfold Report.calculateComponentScore
  split <;> rfl

theorem reportWeight_pos {reading : TelemetryReading} (some' : reading.sensors ≠ []) :
    0 < reportWeight reading := by
  apply List.sum_pos
  · intro w mem
    obtain ⟨s, -, rfl⟩ := List.mem_map.mp mem
    exact Report.weight_pos s.sensorType
  · simpa using some'

theorem report_category {reading : TelemetryReading} {stats : List (SensorType × PyFloat × String)}
    (same : stats.Perm (sensorStats reading)) (some' : reading.sensors ≠ []) :
    hiCategory (Report.reportScore stats) =
      if 0.79995 * reportWeight reading ≤ reportSum reading then "Норма"
      else if 0.49995 * reportWeight reading ≤ reportSum reading then "Внимание"
      else "Критично" := by
  have score : Report.reportScore stats =
      (if reportWeight reading = 0 then 0
        else roundTo 4 (reportSum reading / reportWeight reading)) * 100 := by
    simp only [Report.reportScore, Report.calculateOverallScore, List.map_map]
    rw [(same.map _).sum_eq, (same.map _).sum_eq]
    simp only [sensorStats, List.map_map, Function.comp_def, calculateComponentScore_sensorType,
      reportWeight, reportSum]
    rfl
  have pos := reportWeight_pos some'
  have normal := le_roundTo_four (show (8000 : ℤ) % 2 = 0 by decide)
    (reportSum reading / reportWeight reading)
  have warning := le_roundTo_four (show (5000 : ℤ) % 2 = 0 by decide)
    (reportSum reading / reportWeight reading)
  rw [le_div_iff₀ pos] at normal warning
  norm_num at normal warning
  rw [score, if_neg pos.ne', hiCategory, hiCategoryNormal, hiCategoryWarning]
  norm_num
  simp only [normal, warning]

/-! ## Agreement -/

/-- Three bands over two cuts agree exactly in a common row. -/
theorem bands_agree {p q p' q' r r' : Prop} [Decidable p] [Decidable q] [Decidable p']
    [Decidable q'] [Decidable r] [Decidable r'] :
    ((if p then "Норма" else if q then "Внимание" else "Критично") =
        (if p' then "Норма" else if q' then "Внимание" else "Критично") ∧
      (if p then "Норма" else if q then "Внимание" else "Критично") =
        (if r then "Норма" else if r' then "Внимание" else "Критично")) ↔
      (p ∧ p' ∧ r) ∨ ((¬ p ∧ q) ∧ (¬ p' ∧ q') ∧ (¬ r ∧ r')) ∨
        ((¬ p ∧ ¬ q) ∧ (¬ p' ∧ ¬ q') ∧ (¬ r ∧ ¬ r')) := by
  split_ifs <;> simp_all

/-- **When the three formulas agree.**  The processor's category is the fallback's and
the report's exactly when the three sums of the sensors' scores lie in one row. -/
theorem agree_iff (M : PyMath) (now : Datetime) {damage : DamageState}
    {reading : TelemetryReading} (complete : Complete reading)
    (undamaged : Undamaged damage reading) :
    Agree M now damage reading ↔
      ∃ loss, totalLoss M (valueOf reading) (locoSpecs reading.locomotiveType).entries = .ok loss ∧
        SameRow loss (fallbackLoss reading) (reportSum reading) (reportWeight reading) := by
  have category := calculateHealth_category M now complete undamaged
  have some' : reading.sensors ≠ [] := by
    intro none
    have keys := complete
    simp only [Complete, none, List.map_nil, List.nil_perm] at keys
    revert keys
    cases reading.locomotiveType <;> decide
  cases total : totalLoss M (valueOf reading) (locoSpecs reading.locomotiveType).entries with
  | error exc =>
      -- the processor answers nothing
      simp only [Agree, reduceCtorEq, false_and, exists_const, iff_false]
      rintro ⟨health, ok, -⟩
      simp [ok, total, Except.map] at category
  | ok loss =>
      obtain ⟨health, ok⟩ : ∃ health, (calculateHealth M now damage reading).1 = .ok health := by
        cases out : (calculateHealth M now damage reading).1 with
        | error exc => simp [out, total, Except.map] at category
        | ok health => exact ⟨health, rfl⟩
      simp only [ok, total, Except.map, Except.ok.injEq] at category
      have bands : ∀ rows stats, rows.Perm (latestReadings reading) →
          stats.Perm (sensorStats reading) →
          (health.category = (Analytics.computeHealthFromReadings .exact now
              (UUID.str reading.locomotiveId) rows).category ∧
            health.category = hiCategory (Report.reportScore stats) ↔
          SameRow loss (fallbackLoss reading) (reportSum reading) (reportWeight reading)) := by
        intro rows stats sameRows sameStats
        rw [category, fallback_category now _ sameRows, report_category sameStats some',
          bands_agree, SameRow]
        have pos := reportWeight_pos some'
        have last : ∀ x : PyFloat, (20 < x ∧ 50 < x) ↔ 50 < x := by
          intro x
          exact and_iff_right_of_imp fun h => by linarith
        have lastReport : (reportSum reading < 0.79995 * reportWeight reading ∧
            reportSum reading < 0.49995 * reportWeight reading) ↔
              reportSum reading < 0.49995 * reportWeight reading :=
          and_iff_right_of_imp fun h => by linarith
        simp only [not_le, last, lastReport]
      have agree : Agree M now damage reading ↔ ∀ rows stats, rows.Perm (latestReadings reading) →
          stats.Perm (sensorStats reading) →
          health.category = (Analytics.computeHealthFromReadings .exact now
              (UUID.str reading.locomotiveId) rows).category ∧
            health.category = hiCategory (Report.reportScore stats) := by
        simp only [Agree, ok, Except.ok.injEq, exists_eq_left']
      rw [agree]
      simp only [Except.ok.injEq, exists_eq_left']
      constructor
      · intro all
        exact (bands _ _ (.refl _) (.refl _)).mp (all _ _ (.refl _) (.refl _))
      · intro row rows stats sameRows sameStats
        exact (bands rows stats sameRows sameStats).mpr row

/-- Every sensor of the diesel locomotive in the middle of both notions of normal. -/
def moderate : TelemetryReading where
  locomotiveId := 7
  locomotiveType := .te33a
  timestamp := 0
  sensors := [⟨.dieselRpm, 525, "rpm"⟩, ⟨.oilPressure, 3.25, "bar"⟩, ⟨.coolantTemp, 82.5, "°C"⟩,
    ⟨.fuelLevel, 52.5, "%"⟩, ⟨.fuelRate, 105, "L/h"⟩, ⟨.tractionMotorTemp, 85, "°C"⟩,
    ⟨.crankcasePressure, 10, "mbar"⟩, ⟨.brakePipePressure, 5, "kgf/cm²"⟩,
    ⟨.wheelSlipRatio, 0.25, "ratio"⟩, ⟨.speedActual, 60, "km/h"⟩]

theorem moderate_agrees : Agree .onIntegers 0 Dict.empty moderate := by
  refine (agree_iff .onIntegers 0 (by decide) (fun _ => rfl)).mpr ⟨320 / 81, by decide +kernel, ?_⟩
  exact .inl ⟨by norm_num, by decide +kernel, by decide +kernel⟩

/-- Every sensor of the diesel locomotive at the nominal value of its specification. -/
def nominal : TelemetryReading where
  locomotiveId := 7
  locomotiveType := .te33a
  timestamp := 0
  sensors := [⟨.dieselRpm, 700, "rpm"⟩, ⟨.oilPressure, 3.5, "bar"⟩, ⟨.coolantTemp, 82, "°C"⟩,
    ⟨.fuelLevel, 50, "%"⟩, ⟨.fuelRate, 80, "L/h"⟩, ⟨.tractionMotorTemp, 85, "°C"⟩,
    ⟨.crankcasePressure, 0, "mbar"⟩, ⟨.brakePipePressure, 5.1, "kgf/cm²"⟩,
    ⟨.wheelSlipRatio, 0, "ratio"⟩, ⟨.speedActual, 60, "km/h"⟩]

/-- The processor finds nothing wrong with nominal values; the other two do. -/
theorem nominal_disagrees :
    Complete nominal ∧ Undamaged Dict.empty nominal ∧ ¬ Agree .onIntegers 0 Dict.empty nominal := by
  refine ⟨by decide, fun _ => rfl, ?_⟩
  rintro ⟨health, ok, all⟩
  have category : (calculateHealth .onIntegers 0 Dict.empty nominal).1.map (·.category) =
      .ok "Норма" := by decide +kernel
  have fallback : (Analytics.computeHealthFromReadings .exact 0 nominal.locomotiveId.str
      (latestReadings nominal)).category = "Внимание" := by decide +kernel
  rw [ok] at category
  have normal : health.category = "Норма" := Except.ok.inj category
  have same := (all _ _ (.refl _) (.refl _)).1
  rw [normal, fallback] at same
  exact absurd same (by decide)

end LocoTwin.HealthAgreement
