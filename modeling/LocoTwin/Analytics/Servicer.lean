/-
# Analytics.Servicer -- the health fallback of the analytics service

`computeHealthFromReadings` answers for a locomotive without a cached index, from
the latest value of each sensor.  It scores a sensor by its place in the interval of
`DEFAULT_THRESHOLDS` and weighs it with `HEALTH_WEIGHTS`.  The arithmetic `F` rounds every
operation and every literal.
-/
import LocoTwin.Lib.FloatArith
import LocoTwin.Lib.Ranking
import LocoTwin.Shared.Constants

namespace LocoTwin.Analytics

open LocoTwin.Lib LocoTwin.Shared

set_option autoImplicit false

/-- A row of `get_latest_readings`. -/
structure LatestReading where
  sensorType : SensorType
  value : PyFloat
  unit : String
  locomotiveType : LocomotiveType
  deriving DecidableEq

structure HealthFactor where
  sensorType : SensorType
  value : PyFloat
  unit : String
  penalty : PyFloat
  deriving DecidableEq

structure HealthSnapshot where
  locomotiveId : String
  locomotiveType : LocomotiveType
  overallScore : PyFloat
  category : String
  topFactors : List HealthFactor
  damagePenalty : PyFloat
  calculatedAt : Datetime
  deriving DecidableEq

section

variable (F : FloatArith)

/-- `DEFAULT_THRESHOLDS.get(sensor, (0.0, 100.0))` -/
def bounds (sensor : SensorType) : PyFloat × PyFloat :=
  let (lo, hi) := defaultThresholds.getD sensor (0, 100)
  (F.round lo, F.round hi)

/-- `HEALTH_WEIGHTS.get(sensor, 0.05)` -/
def weight (sensor : SensorType) : PyFloat := F.round (healthWeights.getD sensor 0.05)

/-- The score of one sensor: down to 0.7 at the edges of its interval, to 0 beyond. -/
def sensorScore (sensor : SensorType) (value : PyFloat) : PyFloat :=
  let (lo, hi) := bounds F sensor
  if lo ≤ value ∧ value ≤ hi then
    let mid := F.div (F.add lo hi) 2
    let span := F.div (F.sub hi lo) 2
    if 0 < span then
      max 0 (F.sub 1 (F.mul (F.div |F.sub value mid| span) (F.round 0.3)))
    else 1
  else if value < lo then max 0 (F.sub 1 (F.div (F.sub lo value) (max lo 1)))
  else max 0 (F.sub 1 (F.div (F.sub value hi) (max hi 1)))

/-- `(1.0 - score) * w` -/
def sensorPenalty (sensor : SensorType) (value : PyFloat) : PyFloat :=
  F.mul (F.sub 1 (sensorScore F sensor value)) (weight F sensor)

def computeHealthFromReadings (now : Datetime) (locomotiveId : String)
    (rows : List LatestReading) : HealthSnapshot :=
  let locoType := match rows with
    | [] => .te33a
    | row :: _ => row.locomotiveType
  let totalPenalty := F.sum (rows.map fun row => sensorPenalty F row.sensorType row.value)
  let factors := rows.map fun row =>
    { sensorType := row.sensorType
      value := row.value
      unit := row.unit
      penalty := F.roundTo 4 (sensorPenalty F row.sensorType row.value) }
  let overall := max 0 (min 100 (F.sub 100 (F.mul totalPenalty 100)))
  { locomotiveId := locomotiveId
    locomotiveType := locoType
    overallScore := F.roundTo 1 overall
    category := if 80 ≤ overall then "Норма" else if 50 ≤ overall then "Внимание" else "Критично"
    topFactors := (ranked HealthFactor.penalty factors).take 5
    damagePenalty := 0
    calculatedAt := now }

end

end LocoTwin.Analytics
