/-
# Processor.FilterService -- the exponential filter of raw sensor values

`emaFilter` is the per-sensor recurrence `x̂ = K z + (1 - K) x̂'`, its state the
module dictionary `_ema_state` keyed by locomotive and sensor.  A key without
state returns the raw value.

`emaNext` is the recurrence on its own; `emaFilter_eq` says that one call
returns it, stores it under the call's key and touches nothing else.
-/
import LocoTwin.Shared.Constants

namespace LocoTwin.Processor

open LocoTwin.Lib LocoTwin.Shared

set_option autoImplicit false

/-- `(str(locomotive_id), sensor_type)` -/
abbrev Key := String × SensorType

/-- `_ema_state` -/
abbrev EmaState := Dict Key PyFloat

/-- `EMA_GAINS.get(sensor_type, EMA_GAINS["__default__"])` -/
def emaGain (sensorType : SensorType) : PyFloat := emaGains.getD sensorType emaGainDefault

def emaFilter (state : EmaState) (locomotiveId : String) (sensorType : SensorType)
    (rawValue : PyFloat) : PyFloat × EmaState :=
  let key := (locomotiveId, sensorType)
  match state.get? key with
  | none => (rawValue, state.set key rawValue)
  | some prev =>
      let gain := emaGain sensorType
      let filtered := gain * rawValue + (1 - gain) * prev
      (filtered, state.set key filtered)

/-- `reset_filter`: one sensor of a locomotive, or all of them. -/
def resetFilter (state : EmaState) (locomotiveId : String) : Option SensorType → EmaState
  | some sensorType => state.pop (locomotiveId, sensorType)
  | none => state.restrict fun key => key.1 ≠ locomotiveId

/-- The recurrence: cold start, then the weighted mean with the previous value. -/
def emaNext (sensorType : SensorType) (prev : Option PyFloat) (rawValue : PyFloat) : PyFloat :=
  match prev with
  | none => rawValue
  | some prev => emaGain sensorType * rawValue + (1 - emaGain sensorType) * prev

theorem emaFilter_eq (state : EmaState) (locomotiveId : String) (sensorType : SensorType)
    (rawValue : PyFloat) :
    emaFilter state locomotiveId sensorType rawValue =
      let filtered := emaNext sensorType (state.get? (locomotiveId, sensorType)) rawValue
      (filtered, state.set (locomotiveId, sensorType) filtered) := by
  cases prev : state.get? (locomotiveId, sensorType) <;> simp [emaFilter, emaNext, prev]

end LocoTwin.Processor
