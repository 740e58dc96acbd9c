/-
# Shared.Schemas -- the records that cross service boundaries

The Pydantic models of `shared/schemas` that the modelled code reads or builds,
with all their fields.  `TelemetryReading` carries the range its validator
enforces on the sample rate, so a reading outside it cannot be built.
-/
import LocoTwin.Shared.Enums
import LocoTwin.Shared.Python
import Mathlib.Tactic.NormNum

namespace LocoTwin.Shared

set_option autoImplicit false

structure GPSCoordinate where
  latitude : PyFloat
  longitude : PyFloat
  bearingDeg : Option PyFloat := none
  deriving DecidableEq

structure SensorPayload where
  sensorType : SensorType
  value : PyFloat
  unit : String
  deriving DecidableEq

/-- The default sample rate passes its own check. -/
theorem sampleRate_default : (1 / 10 : PyFloat) ≤ 1 ∧ (1 : PyFloat) ≤ 200 := by norm_num

structure TelemetryReading where
  locomotiveId : UUID
  locomotiveType : LocomotiveType
  timestamp : Datetime
  sampleRateHz : PyFloat := 1
  sampleRate_range : 1 / 10 ≤ sampleRateHz ∧ sampleRateHz ≤ 200 := by
    exact sampleRate_default
  gps : Option GPSCoordinate := none
  sensors : List SensorPayload
  routeName : Option String := none
  deriving DecidableEq

structure AlertEvent where
  id : UUID
  locomotiveId : UUID
  sensorType : SensorType
  severity : AlertSeverity
  value : PyFloat
  thresholdMin : PyFloat
  thresholdMax : PyFloat
  message : String
  recommendation : String := ""
  timestamp : Datetime
  acknowledged : Bool := false
  deriving DecidableEq

/-- One of the sensors that cost the locomotive most. -/
structure HealthFactor where
  sensorType : SensorType
  value : PyFloat
  unit : String
  penalty : PyFloat
  contributionPct : PyFloat
  deviationPct : PyFloat
  deriving DecidableEq

structure HealthIndex where
  locomotiveId : UUID
  locomotiveType : LocomotiveType
  overallScore : PyFloat
  category : String
  topFactors : List HealthFactor
  damagePenalty : PyFloat
  calculatedAt : Datetime
  deriving DecidableEq

namespace TelemetryReading

/-- The reading without the sensors of the given types. -/
def without (reading : TelemetryReading) (types : List SensorType) : TelemetryReading :=
  { reading with sensors := reading.sensors.filter fun s => !types.contains s.sensorType }

end TelemetryReading

end LocoTwin.Shared
