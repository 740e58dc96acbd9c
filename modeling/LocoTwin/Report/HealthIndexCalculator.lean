/-
# Report.HealthIndexCalculator -- the historical score of the report service

A component scores 1 at the midpoint of its interval and 0 at the edges; the overall
score is the weighted mean of the components, both rounded to four decimals.
-/
import LocoTwin.Lib.Rounding
import LocoTwin.Shared.Constants

namespace LocoTwin.Report

open LocoTwin.Lib LocoTwin.Shared

set_option autoImplicit false

/-- A component's score on `[0, 1]`. -/
structure ComponentHealth where
  sensorType : SensorType
  score : PyFloat
  latestValue : PyFloat
  unit : String
  deriving DecidableEq

def calculateComponentScore (sensorType : SensorType) (value : PyFloat) (unit : String) :
    ComponentHealth :=
  match defaultThresholds.get? sensorType with
  | none => { sensorType := sensorType, score := 1, latestValue := value, unit := unit }
  | some (minVal, maxVal) =>
      let midpoint := (minVal + maxVal) / 2
      let halfRange := (maxVal - minVal) / 2
      let score := if halfRange = 0 then 1 else
        let deviation := |value - midpoint| / halfRange
        max 0 (1 - deviation)
      { sensorType := sensorType, score := roundTo 4 score, latestValue := value, unit := unit }

/-- `HEALTH_WEIGHTS.get(comp.sensor_type, 0.05)` -/
def weight (sensorType : SensorType) : PyFloat := healthWeights.getD sensorType 0.05

def calculateOverallScore (components : List ComponentHealth) : PyFloat :=
  let totalWeight := (components.map fun comp => weight comp.sensorType).sum
  let weightedSum := (components.map fun comp => comp.score * weight comp.sensorType).sum
  if totalWeight = 0 then 0 else roundTo 4 (weightedSum / totalWeight)

/-- `overall_score` of `_generate_single_report`, from `(sensor_type, avg, unit)` of
each sensor. -/
def reportScore (stats : List (SensorType × PyFloat × String)) : PyFloat :=
  calculateOverallScore (stats.map fun stat => calculateComponentScore stat.1 stat.2.1 stat.2.2)
    * 100

theorem weight_pos (sensorType : SensorType) : 0 < weight sensorType := by
  cases sensorType <;> decide +kernel

end LocoTwin.Report
